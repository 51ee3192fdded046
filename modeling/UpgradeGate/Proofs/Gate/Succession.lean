import Mathlib.Data.List.Chain
import UpgradeGate.Proofs.Workflow.Appending
import UpgradeGate.Proofs.Workflow.Backing

/-!
# How the records of a proxy follow each other

A record of a proxy is that of a deployment, or it follows the record before: an upgrade keeps the
kind of the proxy, and has the administrator that it was sent through, which was resolved from the
record before and from what its order names (`Succeeds`). So it is for all records of a proxy on a
network, whatever calls were made since its first one (`Gate.Course.chained`).
-/

namespace UpgradeGate

open UpgradeGate.Flow

variable {named : Option String → Prop} {proxy : Address} {network : String}
  {record previous : DeploymentRecord} {row : Row} {rows more : Ledger} {books after : Books}

/-- **A record follows another** of the same proxy: as that of a deployment, or as that of an
upgrade whose order may have named some administrator. -/
inductive Succeeds [AddressRule] (named : Option String → Prop)
    (previous record : DeploymentRecord) : Prop where
  | deployed (action : record.action = .deployProxy)
  | upgraded {text : Option String} {admin : Option Address} (allowed : named text)
      (kind : record.kind = previous.kind) (resolves : Gate.ResolvesTo text (some previous) admin)
      (sent : record.admin = admin.map Address.text)

namespace DeploymentLog

/-- The records of a proxy on a network are the same at every time, and each follows the one
before. -/
def Chained [AddressRule] (named : Option String → Prop) (proxy : Address) (network : String)
    (rows : Ledger) : Prop :=
  ∃ own, (∀ now, recordsOn now rows proxy network = .ok own) ∧ own.IsChain (Succeeds named)

/-- A proxy without records is chained. -/
theorem chained_of_unknown [AddressRule] {now : Moment}
    (unknown : recordsOn now rows proxy network = .ok []) :
    Chained named proxy network rows :=
  ⟨[], recordsOn_eq_nil unknown, .nil⟩

namespace Chained

/-- Rows elsewhere keep a proxy chained. -/
theorem append_others [AddressRule] (chained : Chained named proxy network rows)
    (elsewhere : ∀ row ∈ more, IsElsewhere proxy network row) :
    Chained named proxy network (rows ++ more) := by
  obtain ⟨own, found, chain⟩ := chained
  exact ⟨own, fun now => (recordsOn_append_others elsewhere).trans (found now), chain⟩

/-- A record that follows the last one keeps a proxy chained. -/
theorem append_own [AddressRule] (chained : Chained named proxy network rows)
    (taken : rowOf record = .ok row)
    (own : row.proxy = some proxy.text) (here : record.network = network)
    (follows : ∀ previous, (∀ now, latest? now rows proxy network = .ok (some previous)) →
      Succeeds named previous record) : Chained named proxy network (rows ++ [row]) := by
  obtain ⟨records, found, chain⟩ := chained
  refine ⟨records ++ [record], fun now => ?_, ?_⟩
  · rw [recordsOn_append_own taken own here, found now]
    rfl
  · refine List.isChain_append.2 ⟨chain, .singleton record, fun previous last next first => ?_⟩
    cases first
    refine follows previous fun now => ?_
    rw [latest?_eq, found now]
    exact congrArg Except.ok last

/-- Rows of new proxies may follow anything. -/
theorem append_proxies [AddressRule] (chained : Chained named proxy network rows)
    (proxies : ∀ row ∈ more, ∃ contract here implementation other kind made now,
      row = (Gate.proxyRecord contract here implementation other kind made now).row) :
    Chained named proxy network (rows ++ more) := by
  induction more generalizing rows with
  | nil => rwa [List.append_nil]
  | cons row rest ih =>
    rw [← List.singleton_append, ← List.append_assoc]
    refine ih ?_ fun row member => proxies row (List.mem_cons_of_mem _ member)
    obtain ⟨contract, here, implementation, other, kind, made, now, rfl⟩ :=
      proxies row List.mem_cons_self
    have taken := Gate.rowOf_proxyRecord contract here implementation other kind made now
    by_cases same : other = proxy ∧ here = network
    · obtain ⟨rfl, rfl⟩ := same
      exact chained.append_own taken rfl rfl fun _ _ => .deployed rfl
    · refine chained.append_others fun row member => ?_
      rw [List.mem_singleton.1 member]
      exact isElsewhere_of_rowOf taken rfl same

end Chained

end DeploymentLog

namespace Books

/-- The records of a proxy on a network. -/
def records? (books : Books) (proxy : Address) (network : String) :
    Except Failure (List DeploymentRecord) :=
  books.ledger.bind fun rows => DeploymentLog.recordsOn books.now rows proxy network

/-- The records of a proxy, in a log that can be read. -/
theorem records?_eq (readable : books.ledger = .ok rows) (proxy : Address) (network : String) :
    books.records? proxy network = DeploymentLog.recordsOn books.now rows proxy network := by
  rw [records?, readable]
  rfl

/-- The log is lost, or it can be read and each record of a proxy on a network follows the one
before. -/
def Chained [AddressRule] (named : Option String → Prop) (proxy : Address) (network : String)
    (books : Books) : Prop :=
  books.Lost ∨ ∃ rows, books.ledger = .ok rows ∧ DeploymentLog.Chained named proxy network rows

theorem chained_of_unknown [AddressRule] (unknown : books.records? proxy network = .ok []) :
    books.Chained named proxy network := by
  cases readable : books.ledger with
  | error failure =>
    rw [records?, readable] at unknown
    cases unknown
  | ok rows =>
    rw [records?_eq readable] at unknown
    exact .inr ⟨rows, readable, DeploymentLog.chained_of_unknown unknown⟩

/-- Books stay chained where what is added keeps the rows chained. -/
theorem Chained.extend [AddressRule] (chained : books.Chained named proxy network)
    (extended : Extends more books after)
    (onward : ∀ rows, books.ledger = .ok rows → DeploymentLog.Chained named proxy network rows →
      DeploymentLog.Chained named proxy network (rows ++ more)) :
    after.Chained named proxy network := by
  rcases chained with lost | ⟨rows, readable, chained⟩
  · exact .inl (extended.lost lost)
  · exact (extended.rows rows readable).imp_right fun longer =>
      ⟨_, longer, onward rows readable chained⟩

/-- Where the log can be read, what its records are now they are at every time. -/
theorem Chained.records [AddressRule] {own : List DeploymentRecord}
    (chained : books.Chained named proxy network)
    (found : books.records? proxy network = .ok own) : ∃ rows, books.ledger = .ok rows ∧
      (∀ now, DeploymentLog.recordsOn now rows proxy network = .ok own) ∧
      own.IsChain (Succeeds named) := by
  rcases chained with lost | ⟨rows, readable, records, always, chain⟩
  · cases readable : books.ledger with
    | ok rows => exact absurd readable lost.unreadable
    | error failure =>
      rw [records?, readable] at found
      cases found
  · rw [records?_eq readable] at found
    cases (always books.now).symm.trans found
    exact ⟨rows, readable, always, chain⟩

end Books

namespace Gate

variable {gate : Gate} {order : UpgradeOrder} {trace : Trace collaborators}

/-- Contracts that stand alone are no records of a proxy. -/
theorem isElsewhere_of_rawRows [AddressRule] {contract here : String}
    (alone : RawRows contract here more) :
    ∀ row ∈ more, DeploymentLog.IsElsewhere proxy network row := by
  intro row member
  obtain ⟨address, now, rfl⟩ := alone row member
  exact .inl nofun

/-- An upgrade that is recorded follows the latest record of its proxy. -/
theorem UpgradeRows.chained [AddressRule] {own : Address} {latest : Option DeploymentRecord}
    (added : UpgradeRows order own latest more)
    (chained : DeploymentLog.Chained named proxy network rows) {now : Moment}
    (found : DeploymentLog.latest? now rows own order.network = .ok latest)
    (allowed : own = proxy → order.network = network → named order.admin) :
    DeploymentLog.Chained named proxy network (rows ++ more) := by
  cases added with
  | unfinished alone => exact chained.append_others (isElsewhere_of_rawRows alone)
  | @recorded raw admin implementation time alone resolves =>
    rw [← List.append_assoc]
    have extended := chained.append_others (isElsewhere_of_rawRows alone)
    have taken := rowOf_upgradeRecord order own latest admin implementation time
    by_cases same : own = proxy ∧ order.network = network
    · obtain ⟨rfl, rfl⟩ := same
      refine extended.append_own taken rfl rfl fun previous last => ?_
      have before := last now
      rw [DeploymentLog.latest?_append_others (isElsewhere_of_rawRows alone), found] at before
      cases before
      exact .upgraded (allowed rfl rfl) rfl resolves rfl
    · refine extended.append_others fun row member => ?_
      rw [List.mem_singleton.1 member]
      exact DeploymentLog.isElsewhere_of_rowOf taken rfl same

end Gate

open Gate in
/-- Every call leaves the records of a proxy as a chain. -/
theorem GateCall.chained [AddressRule] {gate : Gate} {call : GateCall} {trace : Trace collaborators}
    {result : Except Failure GateAnswer} (chained : books.Chained named proxy network)
    (allowed : ∀ order, call = .run order → IsFor order proxy network → named order.admin)
    (ended : (call.perform gate).Ends books trace result after) :
    after.Chained named proxy network := by
  have unchanged : (∃ more, Books.Extends more books after ∧ ∀ row ∈ more, False) →
      after.Chained named proxy network := by
    rintro ⟨more, extended, empty⟩
    refine chained.extend extended fun rows _ chained => ?_
    rwa [List.eq_nil_iff_forall_not_mem.2 empty, List.append_nil]
  cases call with
  | deployRaw contract arguments here sender =>
    obtain ⟨_, deployed, -⟩ := ends_map.1 ended
    obtain ⟨more, extended, alone⟩ := extends_of_deployRaw deployed
    exact chained.extend extended fun _ _ chained =>
      chained.append_others (isElsewhere_of_rawRows alone)
  | deployProxy contract initData kind admin here sender =>
    obtain ⟨_, deployed, -⟩ := ends_map.1 ended
    obtain ⟨more, extended, proxies⟩ := extends_of_deployProxy deployed
    refine chained.extend extended fun _ _ chained => chained.append_proxies fun row member => ?_
    obtain ⟨implementation, other, kind, made, now, same⟩ := proxies row member
    exact ⟨contract, here, implementation, other, kind, made, now, same⟩
  | run order =>
    obtain ⟨_, upgraded, -⟩ := ends_map.1 ended
    rcases (ends_run.1 upgraded).extends with extended |
      ⟨own, latest, more, parsed, found, extended, added⟩
    · exact unchanged ⟨[], extended, nofun⟩
    · refine chained.extend extended fun rows readable chained => ?_
      rw [Books.latest?, readable] at found
      exact added.chained chained found fun same here => allowed order rfl ⟨same ▸ parsed, here⟩
  | check contract here =>
    obtain ⟨_, checked, -⟩ := ends_map.1 ended
    exact unchanged ((along_check (Books.steady_extends _) contract here).ends checked)
  | history contract here =>
    obtain ⟨_, looked, -⟩ := ends_map.1 ended
    exact unchanged ((along_history (Books.steady_extends _) contract here).ends looked)

/-- **The records of a proxy** on a network follow each other, whatever calls are made, where there
were none to begin with. -/
theorem Gate.Course.chained [AddressRule] {gate : Gate} {start : Books} {calls : List CallMade}
    (course : Course gate start calls books) (chained : start.Chained named proxy network)
    (allowed : ∀ made ∈ calls, ∀ order, made.call = .run order → IsFor order proxy network →
      named order.admin) : books.Chained named proxy network := by
  induction course with
  | done => exact chained
  | @call start middle _ call now _ _ _ ended _ ih =>
    have began : Books.Chained named proxy network { start with now := now } := chained
    exact ih (GateCall.chained began (allowed _ List.mem_cons_self) ended)
      fun made member => allowed made (List.mem_cons_of_mem _ member)

end UpgradeGate
