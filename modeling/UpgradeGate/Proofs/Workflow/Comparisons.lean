import UpgradeGate.Proofs.Workflow.Effects

/-!
# What a run compares

A run compares its scratch copy, as it is when the layout of the new implementation is asked for,
with the layout that it is given (`Gate.weighed?`). The scratch copy is the layout behind the proxy,
and an attempt that is returned tells both layouts and the verdict on them (`Gate.Run.judged`).
-/

namespace UpgradeGate.Gate

open UpgradeGate.Flow

variable {gate : Gate} {order : UpgradeOrder} {proxy : Address}
  {previous : Option DeploymentRecord} {books after : Books} {trace : Trace collaborators}
  {baseline candidate : Layout}

/-- The layouts that a run compared: its scratch copy on the disk as it is when the new layout is
asked for, which is the first thing that a run asks, and the layout that it is given. Nothing if the
run does not get past the comparison. -/
def weighed? (gate : Gate) (order : UpgradeOrder) : Trace collaborators → Option (Layout × Layout)
  | ⟨⟨.layout _, disk⟩, .ok candidate⟩ :: _ =>
    match gate.store.reading disk .scratch order.contract order.network with
    | .ok (some baseline) => some (baseline, candidate)
    | _ => none
  | _ => none

/-- A candidate compiled while the scratch copy reads as `found` is weighed against what was found.
-/
theorem weighed?_of_reading {contract : String} {disk : Disk} {found : Option Layout}
    (read : gate.store.reading disk .scratch order.contract order.network = .ok found) :
    gate.weighed? order (exchange (.layout contract) disk (.ok candidate) :: trace) =
      found.map (·, candidate) := by
  change (match gate.store.reading disk .scratch order.contract order.network with
    | .ok (some baseline) => some (baseline, candidate)
    | _ => none) = found.map (·, candidate)
  rw [read]
  cases found <;> rfl

/-- An attempt tells the two layouts that were compared and the verdict on them, with an outcome of
its own for layouts that collide. -/
structure Judged (attempt : Attempt) (baseline candidate : Layout) (collided : Outcome) : Prop where
  captured : attempt.baseline = some baseline
  given : attempt.candidate = some candidate
  verdict : attempt.compatible = some (baseline.compare candidate).compatible
  lines : attempt.diff = (baseline.compare candidate).lines
  outcome : attempt.outcome = if (baseline.compare candidate).compatible then .passed else collided

/-- The outcome of an order for layouts that collide. -/
def collidedOutcome (order : UpgradeOrder) : Outcome :=
  if order.override then .collisionOverridden else .collisionBlocked

section Attempted

variable {fresh : Attempt} {result : Except Failure (Attempt × Report)}

/-- An attempt that gets past the comparison compared its scratch copy; without an override it then
returns, and an attempt that is returned tells the verdict. -/
theorem Attempted.judged [AddressRule]
    (attempted : Attempted gate order proxy previous fresh books trace result after)
    (weighed : gate.weighed? order trace = some (baseline, candidate)) :
    gate.store.reading books.disk .scratch order.contract order.network = .ok (some baseline) ∧
      (order.override = false → ∃ ended, result = .ok ended) ∧
      ∀ attempt report, result = .ok (attempt, report) →
        Judged attempt baseline candidate (collidedOutcome order) := by
  cases attempted with
  | unread => cases weighed
  | uncompiled => cases weighed
  | missing _ absent =>
    rw [weighed?_of_reading absent] at weighed
    cases weighed
  | blocked _ _ read plain =>
    rw [weighed?_of_reading read] at weighed
    cases weighed
    refine ⟨read, fun _ => ⟨_, rfl⟩, ?_⟩
    rintro attempt report ⟨⟩
    rw [collidedOutcome, plain]
    exact ⟨rfl, rfl, rfl, rfl, rfl⟩
  | @tried _ _ _ outcome _ read override path =>
    rw [weighed?_of_reading read] at weighed
    cases weighed
    refine ⟨read, ?_, ?_⟩
    · intro plain
      cases plain.symm.trans override
    intro attempt report returned
    cases outcome with
    | error => cases returned
    | ok finished =>
      obtain ⟨_, _, _, _, rfl, -⟩ := path.of_ok
      cases returned
      rw [collidedOutcome, override]
      exact ⟨rfl, rfl, rfl, rfl, rfl⟩

/-- An attempt that is returned got past the comparison. -/
theorem Attempted.weighed [AddressRule] {outcome : Attempt × Report}
    (attempted : Attempted gate order proxy previous fresh books trace result after)
    (returned : result = .ok outcome) :
    ∃ baseline candidate, gate.weighed? order trace = some (baseline, candidate) := by
  cases attempted with
  | unread => cases returned
  | uncompiled => cases returned
  | missing => cases returned
  | blocked _ _ read => exact ⟨_, _, weighed?_of_reading read⟩
  | tried _ read => exact ⟨_, _, weighed?_of_reading read⟩

end Attempted

/-- **A run that gets past the comparison** compared the layout behind the proxy with the layout
that it was given. Without an override it then returns, and where it returns, its attempt tells the
verdict. -/
theorem Run.judged [AddressRule] {result : Except Failure Attempt}
    (run : Run gate order books trace result after)
    (weighed : gate.weighed? order trace = some (baseline, candidate)) :
    (∃ proxy previous, Address.parse order.proxy = .ok proxy ∧
      books.latest? proxy order.network = .ok previous ∧
      gate.live? books.disk order.contract order.network previous = .ok baseline) ∧
    (order.override = false → ∃ attempt, result = .ok attempt) ∧
    ∀ attempt, result = .ok attempt →
      Judged attempt baseline candidate (collidedOutcome order) := by
  cases run with
  | misaddressed => cases weighed
  | untraced => cases weighed
  | unread => cases weighed
  | unheld => cases weighed
  | @held proxy previous own _ _ _ ended _ parsed latest live written attempted =>
    obtain ⟨read, returns, verdict⟩ := attempted.judged weighed
    have same : some baseline = some own :=
      (LayoutStore.holds_of_write written).eq_of_reading (valid_of_live? live) read
    cases same
    refine ⟨⟨proxy, previous, parsed, latest, live⟩, fun plain => ?_, ?_⟩
    · obtain ⟨outcome, rfl⟩ := returns plain
      exact ⟨outcome.1, rfl⟩
    · intro attempt returned
      cases ended with
      | error => cases returned
      | ok outcome =>
        cases returned
        exact verdict _ _ rfl

/-- A run that returns got past the comparison. -/
theorem Run.weighed [AddressRule] {attempt : Attempt}
    (run : Run gate order books trace (.ok attempt) after) :
    ∃ baseline candidate, gate.weighed? order trace = some (baseline, candidate) := by
  generalize returned : (.ok attempt : Except Failure Attempt) = result at run
  cases run with
  | misaddressed => cases returned
  | untraced => cases returned
  | unread => cases returned
  | unheld => cases returned
  | @held _ _ _ _ _ _ ended _ _ _ _ _ attempted =>
    cases ended with
    | error => cases returned
    | ok outcome => exact attempted.weighed rfl

end UpgradeGate.Gate
