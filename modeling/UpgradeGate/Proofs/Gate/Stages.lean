import UpgradeGate.Proofs.Workflow.Announcements
import UpgradeGate.Proofs.Workflow.Completion

/-!
# The stages of an attempt

An attempt goes through its stages in one order with an override and in another one without, and it
has gone through all of them exactly where the run returns (`itinerary`). The attempt that is
returned then tells one definite outcome, the comparison that it rests on, and both addresses of an
implementation that was installed (`Gate.Concluded`); it is announced once, as it is returned, and a
run that fails announces no attempt (`Gate.run_stages`).
-/

namespace UpgradeGate

/-- The stages of an attempt that returns. -/
def itinerary (override : Bool) : List Stage :=
  if override then [.start, .baselineCaptured, .fastPath, .upgraded]
  else [.start, .baselineCaptured, .diffPath, .blocked]

/-- An event that tells how an attempt ended. -/
def Event.isConclusion : Event → Bool
  | .completed _ => true
  | .blocked _ => true
  | _ => false

namespace Flow

/-- The attempts that are announced in some exchanges, with how they ended. -/
def conclusions (trace : Trace collaborators) : List Event :=
  (events trace).filter Event.isConclusion

end Flow

namespace Gate

open UpgradeGate.Flow

variable {gate : Gate} {order : UpgradeOrder} {proxy : Address}
  {previous : Option DeploymentRecord} {books after : Books} {trace : Trace collaborators}

/-- An attempt has gone through some of its stages, in order, and through all of them exactly where
it has returned. -/
structure Travelled (override : Bool) (path : List Stage) (returned : Prop) : Prop where
  inOrder : path <+: itinerary override
  complete : path = itinerary override ↔ returned

/-- A run that returned has passed all stages of its itinerary. -/
theorem travelled_of_returned {override : Bool} {path : List Stage} {returned : Prop}
    (whole : path = itinerary override) (ended : returned) : Travelled override path returned :=
  ⟨whole ▸ List.prefix_rfl, fun _ => ended, fun _ => whole⟩

/-- A run that failed has passed some first stages of its itinerary. -/
theorem travelled_of_failed {override : Bool} {path : List Stage} {returned : Prop}
    (inOrder : path <+: itinerary override) (short : path.length < 4) (ended : ¬ returned) :
    Travelled override path returned := by
  refine ⟨inOrder, fun whole => ?_, fun impossible => absurd impossible ended⟩
  rw [whole] at short
  cases override <;> exact absurd short (by decide)

/-- What an attempt that is returned tells. -/
structure Concluded [AddressRule] (attempt : Attempt) : Prop where
  /-- The outcome is definite. -/
  definite : attempt.outcome ≠ .pending
  passed : attempt.outcome = .passed ↔ attempt.compatible = some true
  overridden : attempt.outcome = .collisionOverridden ↔
    attempt.compatible = some false ∧ attempt.stage = .upgraded
  blocked : attempt.outcome = .collisionBlocked ↔
    attempt.compatible = some false ∧ attempt.stage = .blocked
  /-- The verdict and the lines are those of the two layouts that it tells. -/
  compared : ∃ baseline candidate, attempt.baseline = some baseline ∧
    attempt.candidate = some candidate ∧
    attempt.compatible = some (baseline.compare candidate).compatible ∧
    attempt.diff = (baseline.compare candidate).lines
  /-- What was installed is where it was predicted. -/
  installed : attempt.stage = .upgraded → ∃ predicted implementation,
    attempt.predicted = some predicted ∧ attempt.implementation = some implementation ∧
      Address.sameAccount predicted implementation.text = true
  /-- Where the proxy was left alone, nothing was predicted or deployed. -/
  untouched : attempt.stage = .blocked →
    attempt.predicted = none ∧ attempt.implementation = none

/-- A blocked attempt is concluded as one. -/
theorem concluded_block [AddressRule] (order : UpgradeOrder) (proxy : Address)
    (baseline candidate : Layout) :
    Concluded (block (compared (freshAttempt order proxy) baseline candidate)
      (baseline.compare candidate).compatible) where
  definite := by
    simp only [block]
    split <;> exact nofun
  passed := by simp [block, compared]
  overridden := by
    cases verdict : (baseline.compare candidate).compatible <;> simp [block, compared, verdict]
  blocked := by simp [block, compared]
  compared := ⟨baseline, candidate, rfl, rfl, rfl, rfl⟩
  installed := nofun
  untouched _ := ⟨rfl, rfl⟩

/-- A finished attempt is concluded as one. -/
theorem concluded_finish [AddressRule] (order : UpgradeOrder) (proxy : Address)
    (baseline candidate : Layout) {predicted : String} {implementation : Address}
    (same : Address.sameAccount predicted implementation.text = true) :
    Concluded (finish (compared (freshAttempt order proxy) baseline candidate)
      (baseline.compare candidate).compatible predicted implementation) where
  definite := by
    simp only [finish]
    split <;> exact nofun
  passed := by simp [finish, compared]
  overridden := by simp [finish, compared]
  blocked := by
    cases verdict : (baseline.compare candidate).compatible <;> simp [finish, compared, verdict]
  compared := ⟨baseline, candidate, rfl, rfl, rfl, rfl⟩
  installed _ := ⟨predicted, implementation, rfl, rfl, same⟩
  untouched := nofun

/-- What a run that has begun goes through, announces and returns. -/
structure Journey [AddressRule] (order : UpgradeOrder) (before : List Stage)
    (trace : Trace collaborators)
    (result : Except Failure Attempt) (after : List Stage) : Prop where
  path : ∃ path, after = before ++ path ∧
    Travelled order.override path (∃ attempt, result = .ok attempt)
  returned : ∀ attempt, result = .ok attempt → Concluded attempt ∧
    (order.override = true ∧ attempt.stage = .upgraded ∧
        conclusions trace = [.completed attempt] ∨
      order.override = false ∧ attempt.stage = .blocked ∧
        conclusions trace = [.blocked attempt])
  failed : ∀ failure, result = .error failure → conclusions trace = []

/-- A run that fails before its last stage, and announces no attempt. -/
theorem journey_of_error [AddressRule] {before path after : List Stage} {failure : Failure}
    (passed : after = before ++ path) (inOrder : path <+: itinerary order.override)
    (short : path.length < 4) (silent : conclusions trace = []) :
    Journey order before trace (.error failure) after where
  path := by
    refine ⟨path, passed, travelled_of_failed inOrder short ?_⟩
    rintro ⟨attempt, ⟨⟩⟩
  returned := by rintro attempt ⟨⟩
  failed _ _ := silent

/-- Nothing is concluded where nothing was announced. -/
theorem conclusions_of_no_events (silent : events trace = []) : conclusions trace = [] := by
  rw [conclusions, silent, List.filter_nil]

theorem conclusions_compiled {contract : String} {disk : Disk} {answer : Except Failure Layout} :
    conclusions (exchange (.layout contract) disk answer :: trace) = conclusions trace := rfl

/-- **An attempt** goes on from the start to its last stage, or fails on the way. -/
theorem Attempted.journey [AddressRule] {start : List Stage}
    {result : Except Failure (Attempt × Report)}
    (attempted : Attempted gate order proxy previous (freshAttempt order proxy) books trace result
      after) (begun : books.stages = start ++ [.start])
    (writable : gate.store.Writable .baseline order.contract order.network books.disk) :
    Journey order start trace (result.map Prod.fst) after.stages := by
  have captured : (captureBooks books).stages = start ++ [.start, .baselineCaptured] := by
    rw [captureBooks, begun, List.append_assoc]
    rfl
  have early : ∀ path ∈ [[Stage.start], [.start, .baselineCaptured]], ∀ override,
      path <+: itinerary override := by decide
  cases attempted with
  | unread => exact journey_of_error begun (early _ (by simp) _) (by decide) rfl
  | uncompiled => exact journey_of_error captured (early _ (by simp) _) (by decide) rfl
  | missing => exact journey_of_error captured (early _ (by simp) _) (by decide) rfl
  | @blocked baseline candidate told read plain =>
    refine ⟨⟨itinerary order.override, ?_, travelled_of_returned rfl ⟨_, rfl⟩⟩, ?_, nofun⟩
    · rw [captured, plain, List.append_assoc, List.append_assoc]
      rfl
    · rintro attempt ⟨⟩
      exact ⟨concluded_block order proxy baseline candidate, .inr ⟨plain, rfl, rfl⟩⟩
  | @tried baseline candidate trace outcome last read override path =>
    have entered : (captureBooks books).stages ++ [Stage.fastPath] =
        start ++ [.start, .baselineCaptured, .fastPath] := by
      rw [captured, List.append_assoc]
      rfl
    rw [map_fst_map_report]
    cases outcome with
    | error failure =>
      obtain ⟨same, silent⟩ := path.announces_of_error writable
      refine journey_of_error (same.trans entered) ?_ (by decide) ?_
      · rw [override]
        exact ⟨[.upgraded], rfl⟩
      · rw [conclusions_compiled]
        rcases silent with silent | ⟨implementation, landed⟩
        · exact conclusions_of_no_events silent
        · rw [conclusions, landed]
          rfl
    | ok finished =>
      obtain ⟨predicted, implementation, rfl, same, last, announced⟩ := path.announces_of_ok
      refine ⟨⟨itinerary order.override, ?_, travelled_of_returned rfl ⟨_, rfl⟩⟩, ?_, nofun⟩
      · rw [last, entered, override, List.append_assoc]
        rfl
      · rintro attempt ⟨⟩
        refine ⟨concluded_finish order proxy baseline candidate same, .inl ⟨override, rfl, ?_⟩⟩
        rw [conclusions_compiled, conclusions, announced]
        rfl

theorem stages_countBooks (ended : Except Failure (Attempt × Report)) (books : Books) :
    (countBooks ended books).stages = books.stages := by
  unfold countBooks
  split
  · rfl
  · split <;> rfl

/-- The way of an upgrade through its stages. -/
theorem Run.journey [AddressRule] {result : Except Failure Attempt}
    (run : Run gate order books trace result after) (unhindered : Unhindered gate order books) :
    Journey order books.stages trace result after.stages := by
  have begun : [Stage.start] <+: itinerary order.override := by
    cases order.override <;> exact ⟨_, rfl⟩
  cases run with
  | misaddressed =>
    exact journey_of_error (List.append_nil _).symm List.nil_prefix (by decide) rfl
  | untraced => exact journey_of_error rfl begun (by decide) rfl
  | unread => exact journey_of_error rfl begun (by decide) rfl
  | unheld =>
    rw [stages_countBooks]
    exact journey_of_error rfl begun (by decide) rfl
  | held _ _ _ written attempted =>
    rw [stages_countBooks]
    exact attempted.journey rfl (unhindered.writable written)

/-- **Stages.** Where the writes of a run do not fail, its attempt goes through the stages of its
order, through all of them exactly where the run returns. What is returned tells a definite outcome
and what it rests on, and is announced once, as completed or as blocked. A run that fails announces
neither. -/
theorem run_stages [AddressRule] {result : Except Failure Attempt}
    (unhindered : Unhindered gate order books)
    (ended : (gate.run order).Ends books trace result after) :
    (∃ path, after.stages = books.stages ++ path ∧ path <+: itinerary order.override ∧
      (path = itinerary order.override ↔ ∃ attempt, result = .ok attempt)) ∧
    (∀ attempt, result = .ok attempt → Concluded attempt ∧
      (order.override = true ∧ attempt.stage = .upgraded ∧
          conclusions trace = [.completed attempt] ∨
        order.override = false ∧ attempt.stage = .blocked ∧
          conclusions trace = [.blocked attempt])) ∧
    ∀ failure, result = .error failure → conclusions trace = [] := by
  obtain ⟨⟨path, passed, inOrder, complete⟩, returned, failed⟩ :=
    (ends_run.1 ended).journey unhindered
  exact ⟨⟨path, passed, inOrder, complete⟩, returned, failed⟩

/-- In the prepared workspace an upgrade is installed, and its attempt goes through all stages. -/
theorem run_stages_prepared :
    Unhindered prepared .prepared .prepared ∧ ∃ trace attempt after,
      (prepared.run .prepared).Ends .prepared trace (.ok attempt) after ∧
      after.stages = [.start, .baselineCaptured, .fastPath, .upgraded] ∧
      attempt.outcome ≠ .pending ∧ conclusions trace = [.completed attempt] := by
  have unhindered : Unhindered prepared .prepared .prepared :=
    unhindered_of_writable (LayoutStore.writable_prepared .scratch)
      (LayoutStore.writable_prepared .baseline) fun _ => nofun
  obtain ⟨trace, attempt, after, ended, -⟩ := exists_run_prepared (Layout.empty none)
  obtain ⟨⟨path, passed, -, complete⟩, returned, -⟩ := run_stages unhindered ended
  obtain ⟨concluded, ⟨-, -, announced⟩ | ⟨⟨⟩, -⟩⟩ := returned attempt rfl
  refine ⟨unhindered, trace, attempt, after, ended, ?_, concluded.definite, announced⟩
  rw [passed, complete.2 ⟨attempt, rfl⟩]
  rfl

end Gate

end UpgradeGate
