import UpgradeGate.Proofs.Command.ExitStatus

/-!
# What comes before the work of a command

Before a command looks at the values it was given, its folders are made and the deployment log is
opened. Nobody is asked for that, and nothing is written but a new log without rows
(`Command.onlyOpens_of_ends_opened`). Then a command comes to its work (`Command.ComesTo`), or it
refuses what it was given, and that was all (`Command.Refuses`). Which of the two is told by what
its work starts from (`Command.StartsFrom`).
-/

namespace UpgradeGate

open UpgradeGate.Flow

namespace Disk

variable {before middle after : Disk}

/-- What was held at a place and what is held there: the same, or a new log without rows, where
nothing or an empty file was. -/
inductive Opened : Option Node → Option Node → Prop where
  | kept (held : Option Node) : Opened held held
  | made : Opened none (some (.database []))
  | replaced {content : ByteArray} (blank : content.isEmpty = true) :
      Opened (some (.file content)) (some (.database []))

/-- **Only logs were opened**: every file and every log is as it was, but for new logs without
rows. -/
def OnlyOpens (before after : Disk) : Prop :=
  ∀ place, Opened (before.held? place) (after.held? place)

theorem OnlyOpens.of_keeps (keeps : Keeps (fun _ => False) before after) :
    OnlyOpens before after := by
  intro place
  rw [keeps.held place not_false]
  exact .kept _

/-- Folders may be made before a log is opened. -/
theorem OnlyOpens.after_keeps (keeps : Keeps (fun _ => False) before middle)
    (opens : OnlyOpens middle after) : OnlyOpens before after := by
  intro place
  rw [← keeps.held place not_false]
  exact opens place

/-- A new log stands where nothing or an empty file stood. -/
theorem onlyOpens_put (disk : Disk) {place : Place} (inside : place ≠ [])
    (opened : Opened (disk.held? place) (some (.database []))) :
    OnlyOpens disk (disk.put place (.database [])) := by
  intro other
  by_cases same : other = place
  · subst same
    have held : (disk.put other (.database [])).held? other = some (.database []) :=
      held?_eq_some_iff.2 ⟨node?_put_self disk _ inside, nofun⟩
    rwa [held]
  · have held : (disk.put place (.database [])).held? other = disk.held? other := by
      rw [held?, held?, node?_put_of_ne disk _ same]
    rw [held]
    exact .kept _

end Disk

/-- Opening a log writes at most a new one. -/
theorem LogConnection.onlyOpens_connect (name : String) (disk : Disk) :
    Disk.OnlyOpens disk ((connect name).run.run disk).2 := by
  have same : Disk.OnlyOpens disk disk := .of_keeps (.refl _ _)
  rw [connect]
  split
  · exact same
  simp only [DiskTask.run_bind, DiskTask.run_get]
  cases disk.follow [] (Path.ofText name) with
  | error kind => exact same
  | ok place =>
    simp only [DiskTask.run_bind, DiskTask.run_get]
    cases found : disk.node? place with
    | none =>
      have inside : place ≠ [] := by
        rintro rfl
        cases found
      have held : disk.held? place = none := by rw [Disk.held?, found]
      exact Disk.onlyOpens_put disk inside (held ▸ .made)
    | some node =>
      cases node with
      | folder => exact same
      | database => exact same
      | file content =>
        have inside : place ≠ [] := by
          rintro rfl
          cases found
        have held : disk.held? place = some (.file content) := by rw [Disk.held?, found]
        by_cases blank : content.isEmpty = true
        · simp only [blank, if_true]
          exact Disk.onlyOpens_put disk inside (held ▸ .replaced blank)
        · simp only [blank]
          exact same

namespace Command

variable {α : Type} {invocation : Invocation} {environment : Environment} {context : Context}
  {books after : Books} {trace : Trace collaborators} {failure : Failure}

/-! ## Opening -/

/-- Opening the log writes nothing but a new log. -/
theorem onlyOpens_of_ends_openLog {result : Except Failure Unit}
    (ended : (openLog context).Ends books trace result after) :
    Disk.OnlyOpens books.disk after.disk := by
  have opens := LogConnection.onlyOpens_connect (context.home ++ ["deployments.db"]).text books.disk
  rcases ends_onDisk_bind.1 ended with ⟨_, _, ran, rest⟩ | ⟨_, _, ran, -, -, rfl⟩
  · obtain ⟨-, -, rfl⟩ := ends_modify.1 rest
    rwa [ran] at opens
  · rwa [ran] at opens

/-- **Before its work**, a command writes nothing but a new log without rows. -/
theorem onlyOpens_of_ends_opened {result : Except Failure Context}
    (ended : (opened invocation environment).Ends books trace result after) :
    Disk.OnlyOpens books.disk after.disk := by
  rcases ends_bind.1 ended with ⟨context, _, _, _, start, rest, -⟩ | ⟨_, start, -⟩
  · refine .after_keeps (prepared_of_ends start).keeps ?_
    rcases ends_bind.1 rest with ⟨_, _, _, _, opening, last, -⟩ | ⟨_, opening, -⟩
    · obtain ⟨-, -, rfl⟩ := ends_pure.1 last
      exact onlyOpens_of_ends_openLog opening
    · exact onlyOpens_of_ends_openLog opening
  · exact .of_keeps (prepared_of_ends start).keeps

/-- Preparing a command and opening its log comes to an end, and nobody is asked. -/
theorem exists_ends_opened (invocation : Invocation) (environment : Environment) (books : Books) :
    ∃ prepared after, (opened invocation environment).Ends books [] prepared after := by
  obtain ⟨trace, ⟨prepared, after⟩, runs⟩ := Program.exists_runs
    (fun _ => ⟨Except.error (.plain .operation)⟩) ((opened invocation environment).run.run books)
  have start : (opened invocation environment).Ends books trace prepared after := runs
  rw [of_ends_opened start] at start
  exact ⟨prepared, after, start⟩

/-! ## Coming to work -/

/-- **A command comes to its work**: it is opened and the work done, announcements are kept, and
then it is concluded. -/
def ComesTo [AddressRule] (invocation : Invocation) (environment : Environment)
    (work : Context → Flow Ending) : Prop :=
  ∀ books trace result after, (program invocation environment books).Runs trace (result, after) ↔
    ∃ told ended, (opened invocation environment >>= work).Ends books told ended after ∧
      Overheard told trace ∧
      result = conclusion (printed ((events told).filterMap nameLine?)) ended

/-- **A command refuses** what it was given: it asks nobody, leaves what opening it leaves, and
reports the failure with status 1, unless it could not even be opened. -/
def Refuses [AddressRule] (invocation : Invocation) (environment : Environment)
    (failure : Failure) : Prop :=
  ∀ books, ∃ prepared after, (opened invocation environment).Ends books [] prepared after ∧
    Disk.OnlyOpens books.disk after.disk ∧
    ∀ trace ended, (program invocation environment books).Runs trace ended ↔
      trace = [] ∧ ended = (match prepared with
        | .ok _ => .ok ⟨1, printed ["Error: " ++ failure.message]⟩
        | .error unopened => report unopened, after)

/-- What follows on preparing a command may look at the command. -/
theorem prepare_bind_of_invocation {first second : Context → Flow α}
    (same : ∀ context, context.invocation = invocation → first context = second context) :
    prepare invocation environment >>= first = prepare invocation environment >>= second := by
  have prepared : ∀ home network gate,
      first ⟨invocation, environment, home, network, gate⟩ =
        second ⟨invocation, environment, home, network, gate⟩ := fun _ _ _ => same _ rfl
  simp only [prepare]
  split
  · rfl
  · simp only [bind_assoc, pure_bind, prepared]

/-- A command whose work starts with its log comes to that work. -/
theorem comesTo_of_carryOut [AddressRule] {work : Context → Flow Ending}
    (carried : ∀ context, context.invocation = invocation →
      carryOut context = openLog context >>= fun _ => work context) :
    ComesTo invocation environment work := by
  intro books trace result after
  rw [runs_program_iff, prepare_bind_of_invocation carried, opened_bind]

/-- A failure without announcements concludes with its report. -/
theorem conclusion_error (failure : Failure) :
    conclusion (printed []) (.error failure) = report failure := by
  change (report failure).map _ = report failure
  rw [report]
  split
  · simp [Except.map, printed]
  · rfl

/-- A command whose work only fails refuses what it was given. -/
theorem ComesTo.refuses [AddressRule]
    (comes : ComesTo invocation environment fun _ => throw failure)
    (reported : failure.kind.isReported = true) : Refuses invocation environment failure := by
  intro books
  obtain ⟨prepared, after, start⟩ := exists_ends_opened invocation environment books
  refine ⟨prepared, after, start, onlyOpens_of_ends_opened start, ?_⟩
  have concluded : conclusion (printed []) (.error failure) =
      .ok ⟨1, printed ["Error: " ++ failure.message]⟩ := by
    rw [conclusion_error, report, if_pos reported]
  rintro trace ⟨result, last⟩
  rw [comes]
  constructor
  · rintro ⟨told, ended, work, overheard, rfl⟩
    rcases ends_bind.1 work with ⟨context, _, _, _, opening, failing, rfl⟩ |
      ⟨unopened, opening, rfl⟩
    · obtain ⟨rfl, rfl, rfl⟩ := ends_throw.1 failing
      cases of_ends_opened opening
      cases overheard
      cases start.unique opening
      exact ⟨rfl, Prod.ext concluded rfl⟩
    · cases of_ends_opened opening
      cases overheard
      cases start.unique opening
      exact ⟨rfl, Prod.ext (conclusion_error unopened) rfl⟩
  · rintro ⟨rfl, same⟩
    obtain ⟨rfl, rfl⟩ := Prod.mk.inj same
    cases prepared with
    | ok context =>
      refine ⟨[], .error failure, ?_, .nil, concluded.symm⟩
      refine ends_bind.2 (.inl ⟨context, _, [], [], start, ?_, rfl⟩)
      exact ends_throw.2 ⟨rfl, rfl, rfl⟩
    | error unopened =>
      exact ⟨[], .error unopened, ends_bind.2 (.inr ⟨unopened, start, rfl⟩), .nil,
        (conclusion_error unopened).symm⟩

/-! ## Values that were given -/

section Given

variable {ι : Type} {given : Except Failure ι} {work : ι → Context → Flow Ending} {value : ι}

/-- The work of a command starts with reading what was given, once its log is open. -/
def StartsFrom [AddressRule] (invocation : Invocation) (given : Except Failure ι)
    (work : ι → Context → Flow Ending) : Prop :=
  ∀ context, context.invocation = invocation → carryOut context =
    openLog context >>= fun _ => Flow.lift given >>= fun value => work value context

/-- Where it can be read, the command comes to its work with it. -/
theorem StartsFrom.comesTo [AddressRule] (starts : StartsFrom invocation given work)
    (read : given = .ok value) :
    ComesTo invocation environment (work value) := by
  refine comesTo_of_carryOut fun context same => ?_
  rw [starts context same, read]
  rfl

/-- Where it cannot be read, the command refuses it. -/
theorem StartsFrom.refuses [AddressRule] (starts : StartsFrom invocation given work)
    (unread : given = .error failure) (reported : failure.kind.isReported = true) :
    Refuses invocation environment failure := by
  refine ComesTo.refuses (comesTo_of_carryOut fun context same => ?_) reported
  rw [starts context same, unread]
  rfl

end Given

end Command

end UpgradeGate
