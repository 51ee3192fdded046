import UpgradeGate.Proofs.Deployment.RecordText
import UpgradeGate.Proofs.Disk.Frame
import UpgradeGate.Proofs.Workflow.Trace

/-!
# The log that flows keep

The rows of the log are those that were there and those that were appended, wherever the log is kept
(`Books.ledger_recorded`). Appending to a log in a file touches no other file, and not even the
bytes of one at its own place, for there are none (`Books.file?_recorded`).

Appending fails only where the log cannot be read; otherwise it returns
(`Flow.ends_appendRecord`).
-/

namespace UpgradeGate

namespace LogConnection

variable {log : LogConnection} {disk after : Disk} {rows old : Ledger}

/-- The place of a log that is kept in a file. -/
def place? : LogConnection → Option Place
  | .file path => some (Path.target [] path)
  | _ => none

/-- A log on file is readable where its path leads to its own place and a database stands there. -/
theorem rows_file_eq_ok_iff {path : Path} :
    (LogConnection.file path).rows disk = .ok rows ↔
      disk.follow [] path = .ok (Path.target [] path) ∧
        disk.node? (Path.target [] path) = some (.database rows) := by
  constructor
  · intro readable
    cases followed : disk.follow [] path with
    | error kind => cases kind <;> simp [LogConnection.rows, Disk.look, followed] at readable
    | ok place =>
      have target := Disk.follow_eq_target followed
      subst target
      refine ⟨rfl, ?_⟩
      simp only [LogConnection.rows, Disk.look_of_follow followed] at readable
      split at readable
      · next found =>
        cases readable
        exact Except.ok.inj found
      · cases readable
      · cases readable
  · intro ended
    obtain ⟨followed, found⟩ := ended
    simp [LogConnection.rows, Disk.look, followed, found]

/-- A readable log on file stands at its place as a database of its rows. -/
theorem node?_of_rows {place : Place} (own : place ∈ log.place?)
    (readable : log.rows disk = .ok rows) :
    disk.node? place = some (.database rows) := by
  cases log with
  | memory => cases own
  | closed => cases own
  | file path =>
    cases own
    exact (rows_file_eq_ok_iff.1 readable).2

/-- A log that could be read can be read after work that does not touch it. -/
theorem rows_keeps {touched : Place → Prop} (keeps : Disk.Keeps touched disk after)
    (apart : ∀ place ∈ log.place?, ¬ touched place) (readable : log.rows disk = .ok rows) :
    log.rows after = .ok rows := by
  cases log with
  | memory => exact readable
  | closed => exact readable
  | file path =>
    obtain ⟨followed, found⟩ := rows_file_eq_ok_iff.1 readable
    exact rows_file_eq_ok_iff.2
      ⟨keeps.follow followed, keeps.node? (apart _ rfl) nofun found⟩

theorem place?_withRows (log : LogConnection) (disk : Disk) (rows : Ledger) :
    (log.withRows disk rows).1.place? = log.place? := by
  cases log with
  | memory => rfl
  | closed => rfl
  | file path =>
    simp only [withRows]
    split <;> rfl

/-- Where the rows of a readable log go: into memory, or in place of the old ones. -/
theorem withRows_disk (readable : log.rows disk = .ok old) (rows : Ledger) :
    (log.withRows disk rows).2 = disk ∨ ∃ place ∈ log.place?,
      disk.node? place = some (.database old) ∧
      (log.withRows disk rows).2 = disk.put place (.database rows) := by
  cases log with
  | memory => exact .inl rfl
  | closed => exact .inl rfl
  | file path =>
    obtain ⟨followed, found⟩ := rows_file_eq_ok_iff.1 readable
    exact .inr ⟨_, rfl, found, by simp [withRows, followed]⟩

/-- The rows put into a readable log are the rows read from it. -/
theorem rows_withRows (readable : log.rows disk = .ok old) (rows : Ledger) :
    (log.withRows disk rows).1.rows (log.withRows disk rows).2 = .ok rows := by
  cases log with
  | memory => rfl
  | closed => cases readable
  | file path =>
    obtain ⟨followed, found⟩ := rows_file_eq_ok_iff.1 readable
    have inside : Path.target [] path ≠ [] := by
      intro root
      rw [root] at found
      cases found
    have free : disk.node? (Path.target [] path) ≠ some .folder := by
      rw [found]
      exact nofun
    simp only [withRows, followed]
    exact rows_file_eq_ok_iff.2
      ⟨(Disk.Keeps.put disk free).follow followed, Disk.node?_put_self disk _ inside⟩

/-- Putting rows into a log touches the place of the log alone. -/
theorem keeps_withRows (readable : log.rows disk = .ok old) (rows : Ledger) :
    Disk.Keeps (· ∈ log.place?) disk (log.withRows disk rows).2 := by
  rcases withRows_disk readable rows with same | ⟨place, own, found, put⟩
  · rw [same]
    exact .refl _ _
  · rw [put]
    refine (Disk.Keeps.put disk ?_).mono ?_
    · rw [found]
      exact nofun
    · rintro _ rfl
      exact own

/-- Putting rows into a readable log changes no file. -/
theorem file?_withRows (readable : log.rows disk = .ok old) (rows : Ledger) (place : Place) :
    (log.withRows disk rows).2.file? place = disk.file? place := by
  rcases withRows_disk readable rows with same | ⟨own, -, found, put⟩
  · rw [same]
  · have free : disk.node? own ≠ some .folder := by
      rw [found]
      exact nofun
    rw [put]
    by_cases same : place = own
    · have inside : own ≠ [] := by
        rintro rfl
        cases found
      subst same
      simp [Disk.file?, Disk.held?, Disk.node?_put_self disk _ inside, found]
    · exact (Disk.Keeps.put disk free).file? same

/-- Where a file or a log stands, one still does. -/
theorem stands_withRows (readable : log.rows disk = .ok old) (rows : Ledger) {place : Place}
    (stands : disk.Stands place) : (log.withRows disk rows).2.Stands place := by
  rcases withRows_disk readable rows with same | ⟨own, -, there, put⟩
  · rwa [same]
  · have inside : own ≠ [] := by
      rintro rfl
      cases there
    have free : disk.node? own ≠ some .folder := by
      rw [there]
      exact nofun
    rw [put]
    by_cases same : place = own
    · subst same
      exact ⟨_, Disk.node?_put_self _ _ inside, nofun⟩
    · exact (Disk.Keeps.put disk free).stands same stands

end LogConnection

namespace Books

variable {books : Books} {row : Row} {rows : Ledger}

/-- The rows of the log. -/
def ledger (books : Books) : Except Failure Ledger := books.log.rows books.disk

/-- The books with other rows in their log. -/
def withLedger (books : Books) (rows : Ledger) : Books :=
  let (log, disk) := books.log.withRows books.disk rows
  { books with log := log, disk := disk }

/-- The books with one more row in their log, if that can be read. -/
def recorded (books : Books) (row : Row) : Books :=
  match books.ledger with
  | .ok rows => books.withLedger (rows ++ [row])
  | .error _ => books

/-- **Appending** adds a row to those that are there. -/
theorem ledger_recorded (books : Books) (row : Row) :
    (books.recorded row).ledger = books.ledger.map (· ++ [row]) := by
  cases readable : books.ledger with
  | error failure => simp [recorded, readable, Except.map]
  | ok rows =>
    simp only [recorded, readable]
    exact LogConnection.rows_withRows readable (rows ++ [row])

@[simp] theorem now_recorded (books : Books) (row : Row) :
    (books.recorded row).now = books.now := by
  unfold recorded
  split <;> rfl

@[simp] theorem stages_recorded (books : Books) (row : Row) :
    (books.recorded row).stages = books.stages := by
  unfold recorded
  split <;> rfl

@[simp] theorem tally_recorded (books : Books) (row : Row) :
    (books.recorded row).tally = books.tally := by
  unfold recorded
  split <;> rfl

@[simp] theorem place?_recorded (books : Books) (row : Row) :
    (books.recorded row).log.place? = books.log.place? := by
  unfold recorded
  split
  · exact LogConnection.place?_withRows ..
  · rfl

/-- Recording a row touches the place of the log alone. -/
theorem keeps_recorded (books : Books) (row : Row) :
    Disk.Keeps (· ∈ books.log.place?) books.disk (books.recorded row).disk := by
  unfold recorded
  split
  · next readable => exact LogConnection.keeps_withRows readable _
  · exact .refl _ _

theorem file?_recorded (books : Books) (row : Row) (place : Place) :
    (books.recorded row).disk.file? place = books.disk.file? place := by
  unfold recorded
  split
  · next readable => exact LogConnection.file?_withRows readable _ place
  · rfl

/-- A folder that stands still stands after a row is recorded. -/
theorem stands_recorded (books : Books) (row : Row) {place : Place}
    (stands : books.disk.Stands place) : (books.recorded row).disk.Stands place := by
  unfold recorded
  split
  · next readable => exact LogConnection.stands_withRows readable _ stands
  · exact stands

theorem folder_of_recorded {place : Place}
    (folder : (books.recorded row).disk.node? place = some .folder) :
    books.disk.node? place = some .folder := by
  unfold recorded at folder
  split at folder
  · next rows readable =>
    change (books.log.withRows books.disk (rows ++ [row])).2.node? place = some .folder at folder
    rcases LogConnection.withRows_disk readable (rows ++ [row]) with same | ⟨_, -, -, put⟩
    · rwa [same] at folder
    · rw [put] at folder
      exact Disk.folder_of_put folder nofun
  · exact folder

/-! ### Frames -/

/-- Work that touches some places and may append to the log: all folders are kept, files elsewhere
are as they were, and the log stays in its place. -/
structure Keeps (touched : Place → Prop) (before after : Books) : Prop where
  disk : Disk.Keeps (fun place => place ∈ before.log.place? ∨ touched place) before.disk after.disk
  stands : ∀ {place}, ¬ touched place → before.disk.Stands place → after.disk.Stands place
  files : ∀ {place}, ¬ touched place → after.disk.file? place = before.disk.file? place
  place : after.log.place? = before.log.place?
  now : after.now = before.now

namespace Keeps

variable {touched more : Place → Prop} {before middle after other : Books}

theorem refl (touched : Place → Prop) (books : Books) : Keeps touched books books :=
  ⟨.refl _ _, fun _ stands => stands, fun _ => rfl, rfl, rfl⟩

theorem trans (first : Keeps touched before middle) (second : Keeps touched middle after) :
    Keeps touched before after where
  disk := first.disk.trans (first.place ▸ second.disk)
  stands apart stands := second.stands apart (first.stands apart stands)
  files apart := (second.files apart).trans (first.files apart)
  place := second.place.trans first.place
  now := second.now.trans first.now

theorem mono (keeps : Keeps touched before after) (within : ∀ place, touched place → more place) :
    Keeps more before after where
  disk := keeps.disk.mono fun place => Or.imp_right (within place)
  stands apart := keeps.stands fun inside => apart (within _ inside)
  files apart := keeps.files fun inside => apart (within _ inside)
  place := keeps.place
  now := keeps.now

/-- Counts and stages are no matter of what is kept. -/
theorem congr (keeps : Keeps touched before after) (disk : other.disk = after.disk)
    (log : other.log = after.log) (now : other.now = after.now) : Keeps touched before other where
  disk := disk ▸ keeps.disk
  stands := disk ▸ keeps.stands
  files := disk ▸ keeps.files
  place := log ▸ keeps.place
  now := now ▸ keeps.now

theorem ofDisk {disk : Disk} (keeps : Disk.Keeps touched before.disk disk) :
    Keeps touched before { before with disk := disk } where
  disk := keeps.mono fun _ => .inr
  stands apart := keeps.stands apart
  files apart := keeps.file? apart
  place := rfl
  now := rfl

theorem recorded (books : Books) (row : Row) :
    Keeps (fun _ => False) books (books.recorded row) where
  disk := (books.keeps_recorded row).mono fun _ => .inl
  stands _ := books.stands_recorded row
  files _ := books.file?_recorded row _
  place := books.place?_recorded row
  now := books.now_recorded row

end Keeps

end Books

namespace Flow

variable {books after : Books} {trace : Trace collaborators} {record : DeploymentRecord} {row : Row}

theorem settles_rows (books : Books) : rows.Settles books books.ledger := by
  intro trace result after
  rw [rows, ends_get_bind, ends_lift]
  rfl

/-- The history settles as the rows of the log read as records. -/
theorem settles_history (books : Books) (contract network : Option String) :
    (history contract network).Settles books
      (books.ledger >>= fun rows => DeploymentLog.history books.now rows contract network) := by
  refine (settles_rows books).bind fun rows trace result after => ?_
  rw [ends_get_bind, ends_lift]

/-- The last record settles as the last of the history of its contract and network. -/
theorem settles_lastRecord? (books : Books) (contract network : String) :
    (lastRecord? contract network).Settles books (books.ledger >>= fun rows =>
      DeploymentLog.history books.now rows (some contract) (some network) >>= fun records =>
        .ok records.getLast?) := by
  rw [← bind_assoc]
  exact (settles_history books _ _).bind fun _ => settles_pure books _

theorem settles_recordsOfProxy (books : Books) (proxy : Address) :
    (recordsOfProxy proxy).Settles books
      (books.ledger >>= fun rows => DeploymentLog.forProxy books.now rows proxy) := by
  refine (settles_rows books).bind fun rows trace result after => ?_
  rw [ends_get_bind, ends_lift]

theorem settles_recordCount (books : Books) :
    recordCount.Settles books (books.ledger >>= fun rows => .ok rows.length) :=
  (settles_rows books).bind fun _ => settles_pure books _

/-- Appending a row asks nothing and records the row, whether or not the log can be read. -/
theorem ends_appendRow {result : Except Failure Nat} :
    (appendRow row).Ends books trace result after ↔
      trace = [] ∧ result = books.ledger.map (·.length + 1) ∧ after = books.recorded row := by
  rw [appendRow, (settles_rows books).ends_bind]
  simp only [Ledger.append, ends_modify_bind, ends_pure]
  cases readable : books.ledger with
  | error failure =>
    simp only [Books.recorded, readable, Except.map]
    constructor
    · intro ended
      rcases ended with ⟨_, ⟨⟩, -⟩ | ⟨_, ⟨⟩, rfl, rfl, rfl⟩
      exact ⟨rfl, rfl, rfl⟩
    · intro ended
      obtain ⟨rfl, rfl, rfl⟩ := ended
      exact .inr ⟨failure, rfl, rfl, rfl, rfl⟩
  | ok old =>
    simp only [Books.recorded, readable, Except.map]
    constructor
    · intro ended
      rcases ended with ⟨_, ⟨⟩, rfl, rfl, rfl⟩ | ⟨_, ⟨⟩, -⟩
      exact ⟨rfl, rfl, rfl⟩
    · intro ended
      obtain ⟨rfl, rfl, rfl⟩ := ended
      exact .inl ⟨old, rfl, rfl, rfl, rfl⟩

/-- **Appending a record** asks nobody. It fails exactly where the log cannot be read. -/
theorem ends_appendRecord [AddressRule] {result : Except Failure Nat}
    (taken : DeploymentLog.rowOf record = .ok row) :
    (appendRecord record).Ends books trace result after ↔
      trace = [] ∧ result = books.ledger.map (·.length + 1) ∧ after = books.recorded row := by
  rw [appendRecord, ends_lift_bind, taken]
  simp [ends_appendRow]

/-- A flow that appends a record first goes on from the recorded books, or fails as the log does. -/
theorem ends_appendRecord_bind [AddressRule] {α : Type} {next : Nat → Flow α}
    {result : Except Failure α} (taken : DeploymentLog.rowOf record = .ok row) :
    (appendRecord record >>= next).Ends books trace result after ↔
      (∃ rows, books.ledger = .ok rows ∧
        (next (rows.length + 1)).Ends (books.recorded row) trace result after) ∨
      ∃ failure, books.ledger = .error failure ∧ trace = [] ∧ result = .error failure ∧
        after = books := by
  rw [ends_bind]
  simp only [ends_appendRecord taken]
  cases readable : books.ledger with
  | ok rows =>
    constructor
    · intro ended
      rcases ended with ⟨_, _, _, _, ⟨rfl, ⟨⟩, rfl⟩, rest, rfl⟩ | ⟨_, ⟨-, ⟨⟩, -⟩, -⟩
      exact .inl ⟨rows, rfl, rest⟩
    · intro ended
      rcases ended with ⟨_, ⟨⟩, rest⟩ | ⟨_, ⟨⟩, -⟩
      exact .inl ⟨_, _, [], trace, ⟨rfl, rfl, rfl⟩, rest, rfl⟩
  | error failure =>
    have kept : books.recorded row = books := by simp [Books.recorded, readable]
    rw [kept]
    constructor
    · intro ended
      rcases ended with ⟨_, _, _, _, ⟨-, ⟨⟩, -⟩, -⟩ | ⟨_, ⟨rfl, ⟨⟩, rfl⟩, rfl⟩
      exact .inr ⟨failure, rfl, rfl, rfl, rfl⟩
    · intro ended
      rcases ended with ⟨_, ⟨⟩, -⟩ | ⟨_, ⟨⟩, rfl, rfl, rfl⟩
      exact .inr ⟨failure, ⟨rfl, rfl, rfl⟩, rfl⟩

end Flow

end UpgradeGate
