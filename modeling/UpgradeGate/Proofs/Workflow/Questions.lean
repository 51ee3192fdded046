import UpgradeGate.Proofs.Workflow.FastPath

/-!
# What flows ask

All questions of a flow have a property if those of its parts have it (`Flow.Asks`). Whether an
upgrade can be sent, where its contract will land and what the proxy points to is only looked up on
the chain (`Question.isLookup`).
-/

namespace UpgradeGate

/-- A question looks something up on the chain. -/
def Question.isLookup : Question → Bool
  | .transactionCount _ => true
  | .hasCode _ => true
  | .implementationOf _ => true
  | .adminOf _ => true
  | _ => false

namespace Flow

variable {α β : Type} {P : Question → Prop} {flow : Flow α}

/-- All questions of a flow have a property. -/
structure Asks (P : Question → Prop) (flow : Flow α) : Prop where
  meant : ∀ {books trace result after}, flow.Ends books trace result after →
    ∀ exchange ∈ trace, P exchange.call.question

theorem asks_lift (given : Except Failure α) : (lift given).Asks P := by
  refine ⟨fun {books trace result after} ended exchange member => ?_⟩
  obtain ⟨rfl, -, -⟩ := ends_lift.1 ended
  cases member

theorem asks_pure (value : α) : (pure value : Flow α).Asks P := asks_lift (.ok value)

theorem asks_throw (failure : Failure) : (throw failure : Flow α).Asks P :=
  asks_lift (.error failure)

theorem asks_ask {question : Question} (meant : P question) : (ask question).Asks P := by
  refine ⟨fun {books trace result after} ended exchange member => ?_⟩
  obtain ⟨rfl, -⟩ := ends_ask.1 ended
  exact List.mem_singleton.1 member ▸ meant

/-- Two flows that ask only what is meant ask only that one after the other. -/
theorem asks_bind {next : α → Flow β} (first : flow.Asks P)
    (onward : ∀ value, (next value).Asks P) : (flow >>= next).Asks P := by
  refine ⟨fun {books trace result after} ended exchange member => ?_⟩
  rcases ends_bind.1 ended with ⟨value, _, early, late, start, rest, rfl⟩ | ⟨failure, start, -⟩
  · rcases List.mem_append.1 member with before | behind
    · exact first.meant start exchange before
    · exact (onward value).meant rest exchange behind
  · exact first.meant start exchange member

theorem asks_map {f : α → β} (first : flow.Asks P) : (f <$> flow).Asks P := by
  refine ⟨fun {books trace result after} ended => ?_⟩
  obtain ⟨original, start, -⟩ := ends_map.1 ended
  exact first.meant start

end Flow

namespace Gate

open UpgradeGate.Flow

variable {gate : Gate} {order : UpgradeOrder} {proxy : Address}
  {previous : Option DeploymentRecord} {books : Books}

/-- Finding the administrator only looks up. -/
theorem lookups_administrator [AddressRule] (proxy : Address) (admin : Option String)
    (previous : Option DeploymentRecord) :
    (administrator proxy admin previous).Asks (·.isLookup = true) := by
  rw [administrator_eq]
  split
  · split
    · exact asks_throw _
    · exact asks_pure _
  · refine asks_bind (asks_lift _) fun address => ?_
    refine asks_bind (asks_ask rfl) fun there => ?_
    split
    · exact asks_pure _
    · exact asks_throw _

theorem lookups_predictNext (gate : Gate) (sender : String) :
    (gate.predictNext sender).Asks (·.isLookup = true) := by
  unfold predictNext
  split
  · exact asks_pure _
  · exact asks_bind (asks_ask rfl) fun _ => asks_map (asks_lift _)

theorem lookups_confirm [AddressRule] (proxy implementation : Address) :
    (confirm proxy implementation).Asks (·.isLookup = true) := by
  refine asks_bind (asks_ask rfl) fun current => ?_
  split
  · exact asks_pure _
  · exact asks_throw _

/-- Before a deployment, things are only looked up. -/
theorem Foreseen.lookups [AddressRule] {checked foretold : Trace collaborators}
    {admin : Option Address} {predicted : String}
    (foreseen : Foreseen gate order proxy previous books checked foretold admin predicted) :
    ∀ exchange ∈ checked ++ foretold, exchange.call.question.isLookup = true := by
  intro exchange member
  rcases List.mem_append.1 member with early | late
  · exact (lookups_administrator _ _ _).meant foreseen.resolved exchange early
  · exact (lookups_predictNext _ _).meant foreseen.foretold exchange late

end Gate

end UpgradeGate
