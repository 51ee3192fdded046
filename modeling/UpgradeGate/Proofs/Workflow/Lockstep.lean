import UpgradeGate.Proofs.Workflow.Alone
import UpgradeGate.Proofs.Workflow.ByParts

/-!
# Flows in lockstep

Two programs go in lockstep if they put the same questions, whatever is replied, and end with the
same result and with related books (`Program.Lockstep`). What is on the disk while a question is put
is no matter of it.

A flow respects a relation of books if it goes in lockstep from books that are related
(`Flow.Respects`), and this goes by the parts of a flow (`Flow.byParts_respects`). From related
books and with the same replies, a flow that respects their relation puts the same questions, ends
with the same result, and leaves related books behind (`Flow.Respects.ends_eq`); and however it can
end from the one, it can from the other (`Flow.Respects.exists_ends`).
-/

namespace UpgradeGate

/-! ## What is said -/

/-- What is said in an exchange: the question and the reply to it. -/
def Exchange.said (exchange : Exchange collaborators) :
    (question : Question) × Except Failure question.Answer :=
  ⟨exchange.call.question, exchange.reply⟩

/-- **The same replies** are given in two traces as long as the questions are the same. -/
def SameReplies : Trace collaborators → Trace collaborators → Prop
  | exchange :: rest, exchange' :: rest' =>
    exchange.call.question = exchange'.call.question →
      exchange.said = exchange'.said ∧ SameReplies rest rest'
  | _, _ => True

/-- Traces that said the same have the same replies. -/
theorem SameReplies.of_said : ∀ {trace trace' : Trace collaborators},
    trace.map Exchange.said = trace'.map Exchange.said → SameReplies trace trace'
  | [], _, _ => trivial
  | _ :: _, [], _ => trivial
  | _ :: _, _ :: _, same => fun _ =>
    ⟨(List.cons.inj same).1, SameReplies.of_said (List.cons.inj same).2⟩

/-! ## Programs -/

namespace Program

variable {α β : Type} {S : Books → Books → Prop}
  {program program' : Program collaborators (Except Failure α × Books)}

/-- **Two programs go in lockstep**: they put the same questions, go on alike whatever is replied,
and end with the same result and with related books. -/
inductive Lockstep (S : Books → Books → Prop) :
    Program collaborators (Except Failure α × Books) →
      Program collaborators (Except Failure α × Books) → Prop where
  | done (result : Except Failure α) {books books' : Books} (related : S books books') :
      Lockstep S (.done (result, books)) (.done (result, books'))
  | ask {question : Question} {disk disk' : Disk}
      {next : collaborators.Reply ⟨question, disk⟩ →
        Program collaborators (Except Failure α × Books)}
      {next' : collaborators.Reply ⟨question, disk'⟩ →
        Program collaborators (Except Failure α × Books)}
      (onward : ∀ reply : Except Failure question.Answer, Lockstep S (next reply) (next' reply)) :
      Lockstep S (.ask ⟨question, disk⟩ next) (.ask ⟨question, disk'⟩ next')

namespace Lockstep

/-- Programs in lockstep stay in lockstep when what follows each of them does. -/
theorem bind {next next' : Except Failure α × Books →
      Program collaborators (Except Failure β × Books)}
    (first : Lockstep S program program')
    (onward : ∀ result books books', S books books' →
      Lockstep S (next (result, books)) (next' (result, books'))) :
    Lockstep S (program.bind next) (program'.bind next') := by
  induction first with
  | done result related => exact onward result _ _ related
  | ask _ ih => exact .ask fun reply => ih reply

/-- Given the same replies, the same is said, with the same result. -/
theorem runs_eq {trace trace' : Trace collaborators} {result result' : Except Failure α}
    {after after' : Books} (lockstep : Lockstep S program program')
    (runs : program.Runs trace (result, after)) (runs' : program'.Runs trace' (result', after'))
    (replies : SameReplies trace trace') :
    trace.map Exchange.said = trace'.map Exchange.said ∧ result = result' ∧ S after after' := by
  induction lockstep generalizing trace trace' with
  | done given related =>
    obtain ⟨rfl, same⟩ := runs_done_iff.1 runs
    obtain ⟨rfl, same'⟩ := runs_done_iff.1 runs'
    cases same
    cases same'
    exact ⟨rfl, rfl, related⟩
  | ask _ ih =>
    obtain ⟨reply, rest, rfl, further⟩ := runs_ask_iff.1 runs
    obtain ⟨reply', rest', rfl, further'⟩ := runs_ask_iff.1 runs'
    obtain ⟨said, remaining⟩ := replies rfl
    have same : reply = reply' := eq_of_heq (Sigma.mk.inj said).2
    subst same
    obtain ⟨onward, ended⟩ := ih reply further further' remaining
    exact ⟨List.cons_eq_cons.2 ⟨said, onward⟩, ended⟩

/-- Whatever can be said by the one can be said by the other. -/
theorem exists_runs {trace : Trace collaborators} {result : Except Failure α} {after : Books}
    (lockstep : Lockstep S program program') (runs : program.Runs trace (result, after)) :
    ∃ trace' after', program'.Runs trace' (result, after') ∧
      trace.map Exchange.said = trace'.map Exchange.said ∧ S after after' := by
  induction lockstep generalizing trace with
  | done given related =>
    obtain ⟨rfl, same⟩ := runs_done_iff.1 runs
    cases same
    exact ⟨[], _, .done _, rfl, related⟩
  | @ask question disk disk' _ _ _ ih =>
    obtain ⟨reply, rest, rfl, further⟩ := runs_ask_iff.1 runs
    obtain ⟨rest', after', further', said, related⟩ := ih reply further
    refine ⟨⟨⟨question, disk'⟩, reply⟩ :: rest', after', .ask further', ?_, related⟩
    exact List.cons_eq_cons.2 ⟨rfl, said⟩

end Lockstep

end Program

/-! ## Flows -/

namespace Flow

variable {α : Type} {S : Books → Books → Prop} {flow : Flow α}

/-- **A flow respects a relation**: from related books, it goes in lockstep. -/
def Respects (S : Books → Books → Prop) (flow : Flow α) : Prop :=
  ∀ books books', S books books' →
    Program.Lockstep S (flow.run.run books) (flow.run.run books')

/-- A flow that asks nobody respects a relation where its results are the same. -/
theorem respects_of_gives
    (gives : ∀ books books', S books books' → ∃ result after after',
      flow.Gives books result after ∧ flow.Gives books' result after' ∧ S after after') :
    flow.Respects S := by
  intro books books' related
  obtain ⟨result, after, after', given, given', still⟩ := gives books books' related
  rw [given, given']
  exact .done result still

/-- A flow that settles alike in related books respects the relation. -/
theorem respects_of_settles {found : Books → Except Failure α}
    (settles : ∀ books, flow.Settles books (found books))
    (same : ∀ books books', S books books' → found books = found books') : flow.Respects S :=
  respects_of_gives fun books books' related =>
    ⟨found books, books, books', (settles books).gives,
      same books books' related ▸ (settles books').gives, related⟩

/-- **Respecting a relation** to which counts and stages are no matter goes by the parts of a
flow. -/
theorem byParts_respects
    (marked : ∀ {books books' : Books} (tally tally' : Tally) (stages stages' : List Stage),
      S books books' → S { books with tally := tally, stages := stages }
        { books' with tally := tally', stages := stages' }) :
    ByParts fun _ flow => flow.Respects S where
  lift result _ _ related := .done result related
  ask _ _ _ related := .ask fun reply => .done reply related
  announce _ _ _ related := .ask fun _ => .done (.ok ()) related
  count change books books' related :=
    .done (.ok ()) (marked (change books.tally) (change books'.tally) _ _ related)
  enter stage books books' related :=
    .done (.ok ()) (marked _ _ (books.stages ++ [stage]) (books'.stages ++ [stage]) related)
  bind first onward books books' related := by
    rw [run_bind, run_bind]
    refine (first books books' related).bind fun result middle middle' related => ?_
    cases result with
    | ok value => exact onward value middle middle' related
    | error failure => exact .done (.error failure) related
  ensuring body tidied books books' related := by
    rw [run_ensuring, run_ensuring]
    refine (body books books' related).bind fun result middle middle' related => ?_
    refine (tidied middle middle' related).bind fun cleaned last last' related => ?_
    cases cleaned with
    | ok => exact .done result related
    | error failure => exact .done (.error failure) related
  onFailure body books books' related := by
    rw [run_onFailure, run_onFailure]
    refine (body books books' related).bind fun result last last' related => ?_
    cases result with
    | ok value => exact .done (.ok value) related
    | error failure =>
      refine .done (.error failure) ?_
      dsimp only
      split
      · exact marked _ _ _ _ related
      · exact related

variable {books books' after after' : Books} {trace trace' : Trace collaborators}
  {result result' : Except Failure α}

/-- **From related books**, given the same replies, a flow puts the same questions, ends with the
same result, and leaves related books behind. -/
theorem Respects.ends_eq (respects : flow.Respects S) (related : S books books')
    (ended : flow.Ends books trace result after) (ended' : flow.Ends books' trace' result' after')
    (replies : SameReplies trace trace') :
    trace.map Exchange.said = trace'.map Exchange.said ∧ result = result' ∧ S after after' :=
  (respects books books' related).runs_eq ended ended' replies

/-- A run of a flow that respects the relation has its like in related books, with the same
exchanges. -/
theorem Respects.exists_ends (respects : flow.Respects S) (related : S books books')
    (ended : flow.Ends books trace result after) :
    ∃ trace' after', flow.Ends books' trace' result after' ∧
      trace.map Exchange.said = trace'.map Exchange.said ∧ S after after' :=
  (respects books books' related).exists_runs ended

end Flow

end UpgradeGate
