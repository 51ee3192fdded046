import UpgradeGate.Command.Run
import UpgradeGate.Proofs.Workflow.Announcements

/-!
# How commands conclude

A command is prepared, carried out and concluded. Announcements are kept within it
(`Command.Overheard`). What it ends with follows from what carrying it out ends with: its own ending
where that returned, status 1 where that failed over something that is reported, and else the
failure (`Command.runs_program_iff`).

On a console that cannot print everything, what it fails to print is such a failure too
(`Command.runs_programOn_iff`). Where all that a command says is printed (`Command.Prints`), the
console makes no difference (`Command.conclude_of_prints`), and the status tells how the work of the
command ended (`Command.Tells`). A status other than 1 is always the one that carrying it out ended
with (`Command.status_of_conclude`).
-/

namespace UpgradeGate

open UpgradeGate.Flow

/-- The exchanges of a program tell what it ends with. -/
theorem Program.Runs.unique {I : Interface} {α : Type} {program : Program I α} {trace : Trace I}
    {first second : α} (one : program.Runs trace first) (two : program.Runs trace second) :
    first = second := by
  induction one with
  | done => exact (Program.runs_done_iff.1 two).2.symm
  | ask _ ih =>
    cases two with
    | ask rest => exact ih rest

namespace Command

variable {α : Type} {invocation : Invocation} {environment : Environment} {context : Context}
  {books after : Books} {trace told : Trace collaborators}

/-! ## Announcements that are kept -/

/-- What is left of some exchanges when announcements are kept, and answered at once. -/
inductive Overheard : Trace collaborators → Trace collaborators → Prop where
  | nil : Overheard [] []
  | announced {event : Event} {disk : Disk} {told trace : Trace collaborators}
      (rest : Overheard told trace) :
      Overheard (exchange (.announce event) disk (.ok ()) :: told) trace
  | asked {first : Exchange collaborators} {told trace : Trace collaborators}
      (silent : announced? first = none) (rest : Overheard told trace) :
      Overheard (first :: told) (first :: trace)

/-- Of two parts that are overheard, each is overheard on its own. -/
theorem Overheard.append_cases {first second : Trace collaborators}
    (overheard : Overheard (first ++ second) trace) :
    ∃ early late, Overheard first early ∧ Overheard second late ∧ trace = early ++ late := by
  induction first generalizing trace with
  | nil => exact ⟨[], trace, .nil, overheard, rfl⟩
  | cons exchange first ih =>
    cases overheard with
    | announced rest =>
      obtain ⟨early, late, one, two, rfl⟩ := ih rest
      exact ⟨early, late, .announced one, two, rfl⟩
    | asked silent rest =>
      obtain ⟨early, late, one, two, rfl⟩ := ih rest
      exact ⟨exchange :: early, late, .asked silent one, two, rfl⟩

/-- An exchange that is no announcement is overheard as it is. -/
theorem Overheard.cons_cases {first : Exchange collaborators} (silent : announced? first = none)
    (overheard : Overheard (first :: told) trace) :
    ∃ rest, Overheard told rest ∧ trace = first :: rest := by
  cases overheard with
  | announced rest => cases silent
  | asked _ rest => exact ⟨_, rest, rfl⟩

/-- What tells nothing of announcements tells the same of what is left. -/
theorem Overheard.filterMap_eq {β : Type} {f : Exchange collaborators → Option β}
    (overheard : Overheard told trace)
    (deaf : ∀ event disk, f (exchange (.announce event) disk (.ok ())) = none) :
    trace.filterMap f = told.filterMap f := by
  induction overheard with
  | nil => rfl
  | announced _ ih => rw [ih, List.filterMap_cons_none (deaf _ _)]
  | asked _ _ ih => simp only [List.filterMap_cons, ih]

/-- The addresses of created contracts are overheard as they were told. -/
theorem Overheard.filterMap_deployed? [AddressRule] (overheard : Overheard told trace) :
    trace.filterMap deployed? = told.filterMap deployed? :=
  overheard.filterMap_eq fun _ _ => rfl

/-- Only what was told is overheard. -/
theorem Overheard.subset (overheard : Overheard told trace) :
    ∀ exchange ∈ trace, exchange ∈ told := by
  induction overheard with
  | nil => exact fun _ member => member
  | announced _ ih => exact fun exchange member => List.mem_cons_of_mem _ (ih exchange member)
  | asked _ _ ih =>
    intro exchange member
    rcases List.mem_cons.1 member with rfl | later
    · exact List.mem_cons_self ..
    · exact List.mem_cons_of_mem _ (ih exchange later)

/-- An announcement is kept and not passed on. -/
theorem overhear_announce (event : Event) (disk : Disk)
    (next : Except Failure Unit → Program collaborators α) :
    overhear (.ask ⟨.announce event, disk⟩ next) =
      (overhear (next (.ok ()))).bind fun (result, events) => .done (result, event :: events) :=
  rfl

/-- Every other question is passed on. -/
theorem overhear_ask {request : Request} (silent : request.question.event? = none)
    (next : Except Failure request.question.Answer → Program collaborators α) :
    overhear (.ask request next) = .ask request fun reply => overhear (next reply) := by
  obtain ⟨question, disk⟩ := request
  cases question <;> first | rfl | cases silent

/-- A program that keeps its announcements makes its other exchanges, and ends with what it
announced. -/
theorem runs_overhear_iff {program : Program collaborators α} {result : α} {heard : List Event} :
    (overhear program).Runs trace (result, heard) ↔
      ∃ told, program.Runs told result ∧ Overheard told trace ∧ heard = events told := by
  induction program generalizing trace heard with
  | done value =>
    change (Program.done (value, [])).Runs trace (result, heard) ↔ _
    simp only [Program.runs_done_iff, Prod.mk.injEq]
    constructor
    · intro ended
      obtain ⟨rfl, rfl, rfl⟩ := ended
      exact ⟨[], ⟨rfl, rfl⟩, .nil, rfl⟩
    · intro ended
      obtain ⟨_, ⟨rfl, rfl⟩, overheard, rfl⟩ := ended
      cases overheard
      exact ⟨rfl, rfl, rfl⟩
  | ask request next ih =>
    cases silent : request.question.event? with
    | some event =>
      obtain ⟨question, disk⟩ := request
      cases question with
      | announce event' =>
        rw [overhear_announce]
        simp only [Program.runs_bind_iff, Program.runs_done_iff, Program.runs_ask_iff]
        constructor
        · intro ended
          obtain ⟨first, ⟨_, earlier⟩, _, runs, ⟨rfl, same⟩, rfl⟩ := ended
          cases same
          obtain ⟨told, runs, overheard, rfl⟩ := (ih (.ok ())).1 runs
          rw [List.append_nil]
          exact ⟨_, ⟨.ok (), told, rfl, runs⟩, .announced overheard, rfl⟩
        · intro ended
          obtain ⟨_, ⟨reply, told, rfl, runs⟩, overheard, rfl⟩ := ended
          cases overheard with
          | announced rest =>
            exact ⟨trace, (result, events told), [], (ih (.ok ())).2 ⟨told, runs, rest, rfl⟩,
              ⟨rfl, rfl⟩, (List.append_nil _).symm⟩
          | asked unannounced => cases unannounced
      | _ => cases silent
    | none =>
      rw [overhear_ask silent]
      simp only [Program.runs_ask_iff, ih]
      constructor
      · intro ended
        obtain ⟨reply, _, rfl, told, runs, overheard, rfl⟩ := ended
        exact ⟨_, ⟨reply, told, rfl, runs⟩, .asked silent overheard,
          (@events_cons_of_none ⟨request, reply⟩ silent told).symm⟩
      · intro ended
        obtain ⟨_, ⟨reply, told, rfl, runs⟩, overheard, rfl⟩ := ended
        cases overheard with
        | announced => cases silent
        | asked _ rest => exact ⟨reply, _, rfl, told, runs, rest,
            @events_cons_of_none ⟨request, reply⟩ silent told⟩

/-! ## Preparing -/

/-- What preparing a command comes to: it asks nobody and only makes folders, and what it prepares
is for that command and for the network that it means. -/
structure Prepared (invocation : Invocation) (environment : Environment) (books : Books)
    (trace : Trace collaborators) (result : Except Failure Context) (after : Books) : Prop where
  unasked : trace = []
  keeps : Disk.Keeps (fun _ => False) books.disk after.disk
  meant : ∀ context, result = .ok context → context.invocation = invocation ∧
    Network.resolve invocation.network invocation.endpoint environment = .ok context.network

/-- A command for which folders were made at most, and then nothing was prepared. -/
theorem Prepared.failed {failure : Failure}
    (keeps : Disk.Keeps (fun _ => False) books.disk after.disk) :
    Prepared invocation environment books [] (.error failure) after where
  unasked := rfl
  keeps := keeps
  meant _ same := nomatch same

/-- A command is prepared whichever way preparing it ends. -/
theorem prepared_of_ends {result : Except Failure Context}
    (ended : (prepare invocation environment).Ends books trace result after) :
    Prepared invocation environment books trace result after := by
  rw [prepare] at ended
  dsimp only at ended
  split at ended
  · obtain ⟨_, _, _, _, start, -, -⟩ | ⟨failure, start, rfl⟩ := ends_bind.1 ended
    · obtain ⟨-, ⟨⟩, -⟩ := ends_throw.1 start
    · obtain ⟨rfl, -, rfl⟩ := ends_throw.1 start
      exact .failed (.refl _ _)
  rcases ends_onDisk_bind.1 ended with ⟨_, _, home, ended⟩ | ⟨_, _, home, rfl, rfl, rfl⟩
  case inr => exact .failed (DiskTask.keeps_makeFolders home)
  rcases ends_lift_bind.1 ended with ⟨network, resolved, ended⟩ | ⟨_, -, rfl, rfl, rfl⟩
  case inr => exact .failed (DiskTask.keeps_makeFolders home)
  rcases ends_onDisk_bind.1 ended with ⟨_, _, layouts, ended⟩ | ⟨_, _, layouts, rfl, rfl, rfl⟩
  case inr =>
    exact .failed ((DiskTask.keeps_makeFolders home).trans (DiskTask.keeps_makeFolders layouts))
  obtain ⟨rfl, rfl, rfl⟩ := ends_pure.1 ended
  refine ⟨rfl, (DiskTask.keeps_makeFolders home).trans (DiskTask.keeps_makeFolders layouts),
    fun _ same => ?_⟩
  cases same
  exact ⟨rfl, resolved⟩

/-! ## Consoles -/

/-- A console prints all that a command says in the end, be it what carrying it out ends with or the
report of a failure. -/
def Prints (console : Console) (ended : Except Failure Ending) : Prop :=
  ∀ ending, tryCatch ended report = .ok ending → ∀ text ∈ ending.prints, console text = .ok ()

theorem prints_free (ended : Except Failure Ending) : Prints .free ended := fun _ _ _ _ => rfl

/-- Nothing is refused where the console takes every text. -/
theorem refusal?_eq_none_iff {console : Console} {texts : List String} :
    console.refusal? texts = none ↔ ∀ text ∈ texts, console text = .ok () := by
  induction texts with
  | nil => simp [Console.refusal?]
  | cons text rest ih =>
    rw [Console.refusal?, List.forall_mem_cons]
    cases console text with
    | ok => simp [ih]
    | error => simp

/-! ## Concluding -/

/-- What a command ends with where everything is printed, from what carrying it out ends with. -/
def conclusion (names : List String) (ended : Except Failure Ending) : Except Failure Ending :=
  (tryCatch ended report).map fun ending => { ending with prints := names ++ ending.prints }

/-- What a command ends with on a console, from what carrying it out ends with. -/
def conclusionOn (console : Console) (names : List String) (ended : Except Failure Ending) :
    Except Failure Ending :=
  (conclude console ended).map fun ending =>
    { ending with prints := names.filter console.takes ++ ending.prints }

/-- Where everything is printed, a failure is reported if its family is, and that is all. -/
theorem conclude_of_prints {console : Console} {ended : Except Failure Ending}
    (prints : Prints console ended) : conclude console ended = tryCatch ended report := by
  cases ended with
  | ok ending =>
    rw [conclude, refusal?_eq_none_iff.2 (prints ending rfl)]
    rfl
  | error failure =>
    change reportOn console failure = report failure
    rw [reportOn]
    cases reported : report failure with
    | error => rfl
    | ok ending =>
      have printed := refusal?_eq_none_iff.2 (prints ending reported)
      simp only [bind, Except.bind, printed]
      rfl

/-- On a console that takes every text, a command concludes with what it says. -/
theorem conclusionOn_free (names : List String) (ended : Except Failure Ending) :
    conclusionOn .free names ended = conclusion names ended := by
  have all : names.filter Console.free.takes = names := List.filter_eq_self.2 fun _ _ => rfl
  rw [conclusionOn, conclude_of_prints (prints_free ended), all, conclusion]

/-- The status of a command, from the one that carrying it out ends with. -/
def concluded (status : Except Failure Nat) : Except Failure Nat :=
  tryCatch status fun failure => if failure.kind.isReported then .ok 1 else .error failure

/-- A failure concludes with status 1 where it is reported, and passes on where it is not. -/
theorem concluded_error (failure : Failure) :
    concluded (.error failure) = if failure.kind.isReported then .ok 1 else .error failure := rfl

/-- Reporting turns a failure into status 1. -/
theorem status_tryCatch (ended : Except Failure Ending) :
    (tryCatch ended report).map Ending.status = concluded (ended.map Ending.status) := by
  cases ended with
  | ok ending => rfl
  | error failure =>
    change (report failure).map Ending.status = if failure.kind.isReported then _ else _
    rw [report]
    split <;> rfl

/-- The status with which a command concludes. -/
theorem status_conclusion (names : List String) (ended : Except Failure Ending) :
    (conclusion names ended).map Ending.status = concluded (ended.map Ending.status) := by
  rw [← status_tryCatch, conclusion]
  cases tryCatch ended report <;> rfl

/-- A command is prepared and carried out, announcements are kept, and then it is concluded. -/
theorem runs_programOn_iff [AddressRule] {console : Console} {result : Except Failure Ending} :
    (programOn console invocation environment books).Runs trace (result, after) ↔
      ∃ told ended, (prepare invocation environment >>= carryOut).Ends books told ended after ∧
        Overheard told trace ∧
        result = conclusionOn console (printed ((events told).filterMap nameLine?)) ended := by
  have by_steps : programOn console invocation environment books =
      (overhear ((prepare invocation environment >>= carryOut).run.run books)).bind fun ended =>
        .done (conclusionOn console (printed (ended.2.filterMap nameLine?)) ended.1.1,
          ended.1.2) :=
    rfl
  rw [by_steps, Program.runs_bind_iff]
  constructor
  · intro ended
    obtain ⟨first, ⟨⟨original, last⟩, heard⟩, _, runs, rest, rfl⟩ := ended
    obtain ⟨rfl, same⟩ := Program.runs_done_iff.1 rest
    cases same
    obtain ⟨told, carried, overheard, rfl⟩ := runs_overhear_iff.1 runs
    rw [List.append_nil]
    exact ⟨told, original, carried, overheard, rfl⟩
  · intro ended
    obtain ⟨told, original, carried, overheard, rfl⟩ := ended
    exact ⟨trace, ((original, after), events told), [],
      runs_overhear_iff.2 ⟨told, carried, overheard, rfl⟩, .done _, (List.append_nil _).symm⟩

/-- A program runs as its command ends, with the announcements kept, and concludes with that. -/
theorem runs_program_iff [AddressRule] {result : Except Failure Ending} :
    (program invocation environment books).Runs trace (result, after) ↔
      ∃ told ended, (prepare invocation environment >>= carryOut).Ends books told ended after ∧
        Overheard told trace ∧
        result = conclusion (printed ((events told).filterMap nameLine?)) ended := by
  rw [program, runs_programOn_iff]
  simp only [conclusionOn_free]

/-- What carrying out a command ends with is the end of its work. -/
theorem ends_carryOut_iff [AddressRule] {part : Context → Flow α} {finish : α → Ending}
    {ended : Except Failure Ending}
    (carried : ∀ context, context.invocation = invocation →
      Network.resolve invocation.network invocation.endpoint environment = .ok context.network →
      carryOut context = finish <$> part context) :
    (prepare invocation environment >>= carryOut).Ends books told ended after ↔
      ∃ worked, (prepare invocation environment >>= part).Ends books told worked after ∧
        ended = worked.map finish := by
  constructor
  · intro work
    rcases ends_bind.1 work with ⟨context, middle, first, second, start, rest, rfl⟩ |
      ⟨failure, start, rfl⟩
    · obtain ⟨own, resolved⟩ := (prepared_of_ends start).meant context rfl
      rw [carried context own resolved] at rest
      obtain ⟨worked, working, rfl⟩ := ends_map.1 rest
      exact ⟨worked, ends_bind.2 (.inl ⟨context, middle, first, second, start, working, rfl⟩), rfl⟩
    · exact ⟨.error failure, ends_bind.2 (.inr ⟨failure, start, rfl⟩), rfl⟩
  · rintro ⟨worked, work, rfl⟩
    rcases ends_bind.1 work with ⟨context, middle, first, second, start, rest, rfl⟩ |
      ⟨failure, start, rfl⟩
    · refine ends_bind.2 (.inl ⟨context, middle, first, second, start, ?_, rfl⟩)
      obtain ⟨own, resolved⟩ := (prepared_of_ends start).meant context rfl
      rw [carried context own resolved]
      exact ends_map.2 ⟨worked, rest, rfl⟩
    · exact ends_bind.2 (.inr ⟨failure, start, rfl⟩)

/-- What the status of a command tells of its work: 2 that it returned with a collision, 0 that it
returned without one, and 1 that it failed over something that is reported. No status is told where
it failed over something else. -/
structure Tells (collides : α → Bool) (ended : Except Failure α) (status : Except Failure Nat) :
    Prop where
  collided : status = .ok 2 ↔ ∃ value, ended = .ok value ∧ collides value = true
  done : status = .ok 0 ↔ ∃ value, ended = .ok value ∧ collides value = false
  reported : status = .ok 1 ↔
    ∃ failure, ended = .error failure ∧ failure.kind.isReported = true
  propagated : ∀ failure, status = .error failure ↔
    ended = .error failure ∧ failure.kind.isReported = false

end Command

end UpgradeGate
