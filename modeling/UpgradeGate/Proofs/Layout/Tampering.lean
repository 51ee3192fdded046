import UpgradeGate.Proofs.Layout.StoreEffects

/-!
# Layout files that were tampered with

The canonical text of a record is read back as a document with all of the record but its hash, so
two records of one canonical text agree in everything else
(`LayoutRecord.eq_of_canonicalText_eq`). A file that is accepted carries the digest of the canonical
text of what it says (`LayoutRecord.Accepts.hash_eq`). Whoever changes a stamped file and keeps its
hash field has therefore found two texts of one digest (`LayoutRecord.Accepts.eq_or_collide`).
The file of a stamped record itself is accepted (`LayoutStore.accepts_recordOf`).
-/

namespace UpgradeGate

namespace Sha256

/-- Two texts have one digest. -/
def Collide (first second : String) : Prop :=
  first ≠ second ∧ digest first.toUTF8.data.toList = digest second.toUTF8.data.toList

/-- Equal texts of digests come from equal digests. -/
theorem digest_eq_of_digestText_eq {first second : String}
    (same : digestText first = digestText second) :
    digest first.toUTF8.data.toList = digest second.toUTF8.data.toList := by
  have digits : Bytes.toHex (digest first.toUTF8.data.toList) =
      Bytes.toHex (digest second.toUTF8.data.toList) := String.ofList_injective same
  have read := congrArg Bytes.ofHex? digits
  rw [Bytes.ofHex?_toHex, Bytes.ofHex?_toHex] at read
  exact Option.some.inj read

end Sha256

/-! ## Canonical texts -/

namespace Json

theorem escapesControls_ascii : asciiSpelling.EscapesControls := by
  intro c kept
  simp only [asciiSpelling, Bool.and_eq_true, decide_eq_true_eq] at kept
  exact kept.1

/-- Documents that are exact are told apart by their ASCII texts. -/
theorem eq_of_compactText_ascii {first second : Json} (exact_first : first.IsExact)
    (exact_second : second.IsExact)
    (same : compactText asciiSpelling first = compactText asciiSpelling second) :
    first = second := by
  have texts : compact asciiSpelling first = compact asciiSpelling second :=
    String.ofList_injective same
  have read : readDocument none (compact asciiSpelling first) = .ok second := by
    rw [texts]
    exact readDocument_compact escapesControls_ascii exact_second
  rw [readDocument_compact escapesControls_ascii exact_first] at read
  exact Except.ok.inj read

/-- An optional text is told by its document. -/
theorem ofText?_injective : Function.Injective Json.ofText? := by
  intro first second same
  cases first <;> cases second <;> cases same <;> rfl

end Json

namespace Entry

/-- The canonical object of an entry is exact. -/
theorem isExact_canonical (entry : Entry) : entry.canonical.IsExact := by
  simp [canonical, Json.IsExact, Json.MembersExact]

/-- An entry is told by its canonical object. -/
theorem canonical_injective : Function.Injective canonical := by
  intro first second same
  simp only [canonical, Json.object.injEq, List.cons.injEq, Prod.mk.injEq, Json.string.injEq,
    Json.int.injEq, Int.natCast_inj, true_and, and_true] at same
  obtain ⟨label, offset, slot, type⟩ := same
  cases first
  cases second
  simp_all only

end Entry

namespace Layout

/-- The canonical object of a layout is exact. -/
theorem isExact_canonical (layout : Layout) : layout.canonical.IsExact := by
  have entries : ∀ entries : List Entry, Json.AllExact (entries.map Entry.canonical) := by
    intro entries
    induction entries with
    | nil => trivial
    | cons entry rest ih => exact ⟨entry.isExact_canonical, ih⟩
  simp [canonical, Json.IsExact, Json.MembersExact, Json.isExact_ofText?, entries]

/-- A layout is told by its canonical object. -/
theorem canonical_injective : Function.Injective canonical := by
  intro first second same
  simp only [canonical, Json.object.injEq, List.cons.injEq, Prod.mk.injEq, Json.array.injEq,
    true_and, and_true] at same
  obtain ⟨contract, entries⟩ := same
  cases first
  cases second
  congr
  · exact Json.ofText?_injective contract
  · exact (List.map_inj_right fun _ _ same => Entry.canonical_injective same).1 entries

end Layout

namespace LayoutRecord

variable {record taken : LayoutRecord} {content : ByteArray}

/-- What a record is hashed over, as a document. -/
def canonical (record : LayoutRecord) : Json :=
  .object [("captured_at", .string record.capturedAt), ("contract_name", .string record.contract),
    ("network_id", .string record.network), ("snapshot", record.layout.canonical),
    ("version", .string record.version)]

/-- The canonical object of a record is exact. -/
theorem isExact_canonical (record : LayoutRecord) : record.canonical.IsExact := by
  simp [canonical, Json.IsExact, Json.MembersExact, Layout.isExact_canonical]

/-- **Canonical texts.** Records of one canonical text differ in their hashes alone. -/
theorem eq_of_canonicalText_eq {first second : LayoutRecord}
    (same : first.canonicalText = second.canonicalText) :
    first = { second with hash := first.hash } := by
  have documents : first.canonical = second.canonical :=
    Json.eq_of_compactText_ascii first.isExact_canonical second.isExact_canonical same
  simp only [canonical, Json.object.injEq, List.cons.injEq, Prod.mk.injEq, Json.string.injEq,
    true_and, and_true] at documents
  obtain ⟨captured, contract, network, layouts, version⟩ := documents
  have layout := Layout.canonical_injective layouts
  cases first
  cases second
  simp_all

/-! ## Accepted contents -/

/-- The bytes of a file are accepted as a record: they are the text of one, with its proper hash. -/
structure Accepts (content : ByteArray) (record : LayoutRecord) : Prop where
  written : ∃ text, Text.fileText? content = .ok text ∧ ofText text = .accepted record
  intact : record.isSealed = true

/-- A sealed record has its proper hash. -/
theorem isSealed_iff : record.isSealed = true ↔ record.hash = some record.properHash := by
  unfold isSealed
  cases hash : record.hash with
  | none => simp
  | some digest =>
    -- a proper hash is never empty
    have filled : record.properHash.isEmpty = false := by
      have sealed := isSealed_sealed record
      simp only [isSealed, LayoutRecord.sealed, Bool.and_eq_true, Bool.not_eq_true'] at sealed
      exact sealed.1
    simp only [Bool.and_eq_true, Bool.not_eq_true', beq_iff_eq, Option.some.injEq]
    constructor
    · exact And.right
    · rintro rfl
      exact ⟨filled, rfl⟩

/-- A record's hash is the one that its document gives. -/
theorem hash_of_check {members : Json.Members} {digest : String}
    (checked : check members = .accepted record) (hashed : record.hash = some digest) :
    Json.find? members "hash" = some (.string digest) := by
  simp only [check, Checked.seq_eq_accepted_iff] at checked
  obtain ⟨_, hash, ⟨_, _, ⟨_, _, ⟨_, _, ⟨_, _, first, _, rfl⟩, _, rfl⟩, _, rfl⟩, _, rfl⟩, last,
    rfl⟩ := checked
  obtain ⟨_, _, rfl⟩ := Checked.map_eq_accepted_iff.1 first
  have hashed : hash = some digest := hashed
  subst hashed
  rcases Field.optional_eq_accepted_iff.1 last with ⟨value, found, kept⟩ | ⟨-, other⟩
  · cases value with
    | string text =>
      cases kept
      exact found
    | null => cases kept
    | _ => cases kept
  · cases other

namespace Accepts

variable (accepts : Accepts content taken)
include accepts

/-- What is accepted carries the digest of what it says. -/
theorem hash_eq : taken.hash = some (Sha256.digestText taken.canonicalText) :=
  isSealed_iff.1 accepts.intact

/-- **No hash, no record.** What is accepted is a document with a text as its hash, and that text is
not empty. -/
theorem hashed : ∃ text members digest, Text.fileText? content = .ok text ∧
    Json.ofStoredText? text = some (.object members) ∧
    Json.find? members "hash" = some (.string digest) ∧ digest ≠ "" ∧ taken.hash = some digest := by
  obtain ⟨text, decoded, accepted⟩ := accepts.written
  unfold ofText Field.stored at accepted
  split at accepted
  case h_2 => cases accepted
  next document read =>
  cases document with
  | object members =>
    have found := hash_of_check accepted accepts.hash_eq
    refine ⟨text, members, _, decoded, read, found, ?_, accepts.hash_eq⟩
    intro empty
    have length := Sha256.length_digestText taken.canonicalText
    rw [empty] at length
    exact absurd length (by decide)
  | _ => cases accepted

/-- **Tampering takes a collision.** What is accepted with the hash of a sealed record is that
record or shares the digest of its canonical text with it. -/
theorem eq_or_collide (intact : record.isSealed = true) (same : taken.hash = record.hash) :
    taken = record ∨ Sha256.Collide taken.canonicalText record.canonicalText := by
  by_cases texts : taken.canonicalText = record.canonicalText
  · left
    rw [eq_of_canonicalText_eq texts, same]
  · right
    rw [accepts.hash_eq, isSealed_iff.1 intact] at same
    exact ⟨texts, Sha256.digest_eq_of_digestText_eq (Option.some.inj same)⟩

end Accepts

end LayoutRecord

namespace LayoutStore

variable {store : LayoutStore} {copy : Copy} {contract network : String} {disk : Disk}

/-- **What is read of a copy.** A layout is read exactly when the names are allowed and a file is
there whose bytes are accepted as a record of that layout. -/
theorem reading_eq_ok_some_iff {found : Layout} :
    store.reading disk copy contract network = .ok (some found) ↔
      Allowed contract network ∧ ∃ place content taken,
        disk.follow [] (store.filePath copy contract network) = .ok place ∧
        disk.node? place = some (.file content) ∧ LayoutRecord.Accepts content taken ∧
        taken.layout = found := by
  constructor
  · intro read
    obtain ⟨allowed, place, content, text, followed, there, decoded, read⟩ := file_of_reading read
    obtain ⟨taken, accepted, intact, layout⟩ := layoutOfText_eq_ok_iff.1 read
    have accepts : LayoutRecord.Accepts content taken := ⟨⟨text, decoded, accepted⟩, intact⟩
    exact ⟨allowed, place, content, taken, followed, there, accepts, layout⟩
  · rintro ⟨allowed, place, content, taken, followed, there, accepts, rfl⟩
    obtain ⟨text, decoded, accepted⟩ := accepts.written
    rw [reading_of_file allowed followed there, decoded]
    have layout : layoutOfText (store.filePath copy contract network) text = .ok taken.layout :=
      layoutOfText_eq_ok_iff.2 ⟨taken, accepted, accepts.intact, rfl⟩
    dsimp only
    rw [layout]
    rfl

/-- A record that is written is accepted. -/
theorem accepts_recordOf (now : Moment) (contract network : String) {layout : Layout}
    (valid : layout.Valid) (typed : layout.Typed) :
    LayoutRecord.Accepts (recordOf now contract network layout).fileText.toUTF8
      (recordOf now contract network layout) where
  written := ⟨_, LayoutRecord.fileText?_fileText _, LayoutRecord.ofText_fileText valid typed⟩
  intact := LayoutRecord.isSealed_sealed _

/-- **Tamper evidence.** Records of one canonical text agree in all that is hashed. What a store
reads of a file is what its bytes are accepted as. Bytes that are accepted with the hash of a record
that a store stamped are that record, or there are two texts of one digest; and bytes without a
hash, with null or with an empty text for it, are not accepted at all. -/
theorem tamper_evident :
    (∀ first second : LayoutRecord, first.canonicalText = second.canonicalText →
      first.version = second.version ∧ first.contract = second.contract ∧
        first.network = second.network ∧ first.capturedAt = second.capturedAt ∧
        first.layout = second.layout) ∧
    (∀ (store : LayoutStore) (disk : Disk) (copy : Copy) (contract network : String)
        (found : Layout),
      store.reading disk copy contract network = .ok (some found) ↔
        Allowed contract network ∧ ∃ place content taken,
          disk.follow [] (store.filePath copy contract network) = .ok place ∧
          disk.node? place = some (.file content) ∧ LayoutRecord.Accepts content taken ∧
          taken.layout = found) ∧
    (∀ (content : ByteArray) (text : String) (members : Json.Members) (taken : LayoutRecord),
      Text.fileText? content = .ok text → Json.ofStoredText? text = some (.object members) →
      LayoutRecord.Accepts content taken →
        ∀ (now : Moment) (contract network : String) (layout : Layout),
          let stamped := recordOf now contract network layout
          Json.find? members "hash" = stamped.hash.map Json.string →
            taken = stamped ∨ Sha256.Collide taken.canonicalText stamped.canonicalText) ∧
    (∀ (content : ByteArray) (text : String) (members : Json.Members),
      Text.fileText? content = .ok text → Json.ofStoredText? text = some (.object members) →
      Json.find? members "hash" = none ∨ Json.find? members "hash" = some .null ∨
        Json.find? members "hash" = some (.string "") →
          ∀ taken, ¬ LayoutRecord.Accepts content taken) := by
  refine ⟨?_, fun _ _ _ _ _ _ => reading_eq_ok_some_iff, ?_, ?_⟩
  · intro first second same
    have agree := LayoutRecord.eq_of_canonicalText_eq same
    rw [agree]
    exact ⟨rfl, rfl, rfl, rfl, rfl⟩
  · intro content text members taken decoded read accepts now contract network layout stamped same
    obtain ⟨_, _, digest, decoded', read', found, -, hash⟩ := accepts.hashed
    cases decoded.symm.trans decoded'
    cases read.symm.trans read'
    rw [found] at same
    apply accepts.eq_or_collide (LayoutRecord.isSealed_sealed _)
    rw [hash]
    cases same
    rfl
  · intro content text members decoded read unhashed taken accepts
    obtain ⟨_, _, digest, decoded', read', found, filled, -⟩ := accepts.hashed
    cases decoded.symm.trans decoded'
    cases read.symm.trans read'
    rw [found] at unhashed
    obtain absent | null | empty := unhashed
    · cases absent
    · cases null
    · cases empty
      exact filled rfl

end LayoutStore

end UpgradeGate
