import UpgradeGate.Proofs.Layout.Tampering

/-!
# Damaged files

What is read of a copy whose file was damaged or edited. A file of text is read as the layout of a
record that has its proper hash, or it is refused with a fault of layouts; there is no third way
(`LayoutStore.reading_of_valid`). Bytes that are no text are refused as such, which is no fault of a
layout (`LayoutStore.reading_of_invalid`). Nothing is read only where nothing is to be seen
(`LayoutStore.reading_eq_ok_none_iff`).
-/

namespace UpgradeGate

namespace Text

variable {content : ByteArray}

/-- Invalid bytes are refused with what is wrong with them. -/
theorem fileText?_of_invalid (invalid : ¬ content.IsValidUTF8) :
    fileText? content = .error (utf8Fault content) := by
  simp [fileText?, String.fromUTF8?, invalid]

end Text

namespace LayoutStore

variable {store : LayoutStore} {copy : Copy} {contract network : String} {disk : Disk}
  {content : ByteArray} {place : Place}

/-- What is wrong with a text that is not the text of a layout is a fault of a layout. -/
theorem exists_fault_of_layoutOfText {path : Path} {text : String} {failure : Failure}
    (failed : layoutOfText path text = .error failure) : ∃ fault, failure = .layout fault := by
  rw [layoutOfText] at failed
  split at failed
  · split at failed <;> cases failed
    exact ⟨_, rfl⟩
  · cases failed
    exact ⟨_, rfl⟩
  · cases failed
    exact ⟨_, rfl⟩

/-! ## Files that are there -/

/-- **A file of text** is read as the layout of a record, or it has a fault of layouts. -/
theorem reading_of_valid (allowed : Allowed contract network)
    (followed : disk.follow [] (store.filePath copy contract network) = .ok place)
    (found : disk.node? place = some (.file content)) (valid : content.IsValidUTF8) :
    (∃ record, LayoutRecord.Accepts content record ∧
        store.reading disk copy contract network = .ok (some record.layout)) ∨
      (∀ record, ¬ LayoutRecord.Accepts content record) ∧
        ∃ fault, store.reading disk copy contract network = .error (.layout fault) := by
  obtain ⟨text, decoded⟩ := Text.exists_fileText_of_valid valid
  rw [reading_of_file allowed followed found, decoded]
  dsimp only
  cases read : layoutOfText (store.filePath copy contract network) text with
  | ok layout =>
    obtain ⟨record, accepted, intact, rfl⟩ := layoutOfText_eq_ok_iff.1 read
    have accepts : LayoutRecord.Accepts content record := ⟨⟨text, decoded, accepted⟩, intact⟩
    exact .inl ⟨record, accepts, rfl⟩
  | error failure =>
    obtain ⟨fault, rfl⟩ := exists_fault_of_layoutOfText read
    refine .inr ⟨?_, fault, rfl⟩
    rintro record ⟨⟨own, decoded', accepted⟩, intact⟩
    cases decoded.symm.trans decoded'
    cases read.symm.trans (layoutOfText_eq_ok_iff.2 ⟨record, accepted, intact, rfl⟩)

/-- **A file that is no text** is refused for the first bytes that are no character. -/
theorem reading_of_invalid (allowed : Allowed contract network)
    (followed : disk.follow [] (store.filePath copy contract network) = .ok place)
    (found : disk.node? place = some (.file content)) (invalid : ¬ content.IsValidUTF8) :
    store.reading disk copy contract network =
      .error (.undecodable (Text.utf8Fault content)) := by
  rw [reading_of_file allowed followed found, Text.fileText?_of_invalid invalid]

/-! ## Files that are not there -/

/-- Of what is to be seen a layout is read, or reading fails. -/
theorem run_readFile?_ne {path : Path} {node : Node} {after : Disk}
    (seen : disk.look path = .ok (some node)) :
    (readFile? path).run.run disk ≠ (.ok none, after) := by
  intro ended
  rw [readFile?] at ended
  obtain ⟨there, _, looked, opened⟩ := DiskTask.run_bind_eq_ok.1 ended
  rw [DiskTask.run_exists?_eq, seen] at looked
  cases looked
  simp only [Option.isSome_some, if_true] at opened
  obtain ⟨text, _, -, taken⟩ := DiskTask.run_bind_eq_ok.1 opened
  rw [map_eq_pure_bind] at taken
  obtain ⟨_, _, -, impossible⟩ := DiskTask.run_bind_eq_ok.1 taken
  cases impossible

/-- **Nothing is read** only where nothing is to be seen. -/
theorem reading_eq_ok_none_iff (allowed : Allowed contract network) :
    store.reading disk copy contract network = .ok none ↔
      disk.look (store.filePath copy contract network) = .ok none := by
  refine ⟨fun read => ?_, reading_of_missing allowed⟩
  cases seen : disk.look (store.filePath copy contract network) with
  | error kind =>
    rw [reading_of_unseen allowed seen] at read
    cases read
  | ok found =>
    cases found with
    | none => rfl
    | some node =>
      have ended := store.run_read? copy contract network disk
      rw [read, read?, checkedPath_of_allowed store copy allowed] at ended
      obtain ⟨_, _, ⟨⟩, opened⟩ := DiskTask.run_bind_eq_ok.1 ended
      exact absurd opened (run_readFile?_ne seen)

/-- **Damaged files are reported, as faults of layouts if they are text.** Whatever bytes are in the
file of a copy whose names are allowed: if they are UTF-8, the layout of a record is read that has
its proper hash, or no record is accepted and a fault of layouts is reported; if they are not, that
is reported, and it is no fault of a layout. Nothing is read only where nothing is to be seen. -/
theorem damaged_files_reported :
    ∀ (store : LayoutStore) (disk : Disk) (copy : Copy) (contract network : String),
      Allowed contract network →
      (store.reading disk copy contract network = .ok none ↔
        disk.look (store.filePath copy contract network) = .ok none) ∧
      ∀ (place : Place) (content : ByteArray),
        disk.follow [] (store.filePath copy contract network) = .ok place →
        disk.node? place = some (.file content) →
        (content.IsValidUTF8 →
          (∃ record, LayoutRecord.Accepts content record ∧
              record.hash = some record.properHash ∧
              store.reading disk copy contract network = .ok (some record.layout)) ∨
            (∀ record, ¬ LayoutRecord.Accepts content record) ∧
              ∃ fault, store.reading disk copy contract network = .error (.layout fault)) ∧
        (¬ content.IsValidUTF8 → store.reading disk copy contract network =
          .error (.undecodable (Text.utf8Fault content))) := by
  intro store disk copy contract network allowed
  refine ⟨reading_eq_ok_none_iff allowed, fun place content followed found => ⟨?_, ?_⟩⟩
  · intro valid
    rcases reading_of_valid allowed followed found valid with ⟨record, accepts, read⟩ | refused
    · exact .inl ⟨record, accepts, LayoutRecord.isSealed_iff.1 accepts.intact, read⟩
    · exact .inr refused
  · exact reading_of_invalid allowed followed found

/-- A disk with a file for the baseline of a token. -/
def diskWith (content : ByteArray) : Disk :=
  ⟨[(["layouts"], .folder), (["layouts", "anvil"], .folder),
    (["layouts", "anvil", "Token.json"], .file content)]⟩

/-- A byte that starts no character is reported, and not as a fault of a layout. -/
theorem damaged_files_reported_byte :
    Allowed "Token" "anvil" ∧
      reading ⟨["layouts"]⟩ (diskWith ⟨#[0xFF]⟩) .baseline "Token" "anvil" =
        .error (.undecodable ⟨0, [0xFF], .invalidStart⟩) ∧
      ∀ fault, reading ⟨["layouts"]⟩ (diskWith ⟨#[0xFF]⟩) .baseline "Token" "anvil" ≠
        .error (.layout fault) := by
  have allowed : Allowed "Token" "anvil" := by
    unfold Allowed
    decide
  have followed :
      (diskWith ⟨#[0xFF]⟩).follow [] (filePath ⟨["layouts"]⟩ .baseline "Token" "anvil") =
        .ok ["layouts", "anvil", "Token.json"] := by
    decide +kernel
  have invalid : ¬ ByteArray.IsValidUTF8 ⟨#[0xFF]⟩ := by decide +kernel
  obtain ⟨-, reported⟩ := damaged_files_reported ⟨["layouts"]⟩ (diskWith ⟨#[0xFF]⟩) .baseline
    "Token" "anvil" allowed
  have read := (reported _ _ followed rfl).2 invalid
  have fault : Text.utf8Fault ⟨#[0xFF]⟩ = ⟨0, [0xFF], .invalidStart⟩ := by decide
  rw [fault] at read
  refine ⟨allowed, read, fun fault refused => ?_⟩
  rw [read] at refused
  cases refused

end LayoutStore

end UpgradeGate
