import UpgradeGate.Proofs.Disk.Patterns
import UpgradeGate.Proofs.Disk.Tasks
import UpgradeGate.Proofs.Json.RoundTrip
import UpgradeGate.Toolchain.Project

/-!
# Loading compiled contracts

The compiled contract is taken from the folder named like the contract or else from the first of the
folders that have it (`Project.Chosen`). A document that holds code as text and a list as its
interface gives an artifact with code behind `0x` (`Project.Usable`). One of another shape ends the
loading in a failure that is not the toolchain's (`Project.Misshapen`), and so does a name that is
too long (`Project.Overlong`). Nothing else does (`Project.artifact_outcomes`).
-/

namespace UpgradeGate.Project

variable {project : Project} {contract : String} {disk : Disk} {path : Path}
  {members : Json.Members} {document value : Json} {artifact : Artifact} {failure : Failure}

/-! ## Documents -/

/-- **A document holds a value as its code**, by itself or within an object. -/
inductive HoldsCode (members : Json.Members) : Json → Prop where
  | flat {value : Json} (found : Json.find? members "bytecode" = some value)
      (shape : ∀ inner, value ≠ .object inner) : HoldsCode members value
  | nested {inner : Json.Members} {value : Json}
      (found : Json.find? members "bytecode" = some (.object inner))
      (code : Json.find? inner "object" = some value) : HoldsCode members value

/-- A document holds a list as its interface; an absent one is empty. -/
def HoldsInterface (members : Json.Members) (items : List Json) : Prop :=
  Json.find? members "abi" = some (.array items) ∨
    Json.find? members "abi" = none ∧ items = []

/-- **A usable document**: its code is a text with more than `0x`, its interface a list. -/
inductive Usable (contract : String) : Json → Artifact → Prop where
  | intro {members : Json.Members} {code : String} {items : List Json}
      (holds : HoldsCode members (.string code)) (interface : HoldsInterface members items)
      (more : 2 < (tagged code).length) :
      Usable contract (.object members) ⟨contract, items, tagged code⟩

/-- **A document of the wrong shape**: no object, or with code that is given and no text, or with
code and an interface that is no list. -/
inductive Misshapen : Json → Failure → Prop where
  | document {document : Json} (shape : ∀ members, document ≠ .object members) :
      Misshapen document (.plain .operation)
  | code {members : Json.Members} {value : Json} (holds : HoldsCode members value)
      (given : value.isGiven = true) (shape : ∀ code, value ≠ .string code) :
      Misshapen (.object members) (.plain .operation)
  | interface {members : Json.Members} {code : String} {value : Json}
      (holds : HoldsCode members (.string code)) (given : code ≠ "")
      (found : Json.find? members "abi" = some value) (shape : ∀ items, value ≠ .array items) :
      Misshapen (.object members) (.invalid .artifact [⟨["abi"], .listType⟩])

/-- What the document of a contract is loaded as. -/
def ofDocument (contract : String) (document : Json) : Except Failure Artifact := do
  let code ← codeOf document
  if !code.isGiven then throw (.toolchain (.noBytecode contract))
  let code ← match code with
    | .string text => pure (tagged text)
    | _ => throw (.plain .operation)
  let interface := (← fieldOf document "abi").getD (.array [])
  let artifact ← (Artifact.check [("name", .string contract), ("abi", interface),
    ("bytecode", .string code)]).required .artifact
  if !artifact.hasBytecode then throw (.toolchain (.emptyBytecode contract))
  pure artifact

/-- An artifact is what is read of its document. -/
theorem artifact_eq (project : Project) (contract : String) (disk : Disk) :
    project.artifact contract disk = project.document contract disk >>= ofDocument contract := rfl

/-- The code of a document that holds it. -/
theorem codeOf_of_holds (holds : HoldsCode members value) :
    codeOf (.object members) = .ok value := by
  cases holds with
  | flat found shape =>
    simp only [codeOf, fieldOf, found]
    cases value with
    | object inner => exact absurd rfl (shape inner)
    | _ => rfl
  | nested found code =>
    simp [codeOf, fieldOf, found, code, bind, Except.bind, pure, Except.pure]

/-- Where no code is held, it is empty. -/
theorem holds_or_empty (members : Json.Members) :
    (∃ value, HoldsCode members value) ∨ codeOf (.object members) = .ok (.string "") := by
  cases found : Json.find? members "bytecode" with
  | none =>
    simp [codeOf, fieldOf, found, bind, Except.bind, pure, Except.pure]
  | some value =>
    cases value with
    | object inner =>
      cases code : Json.find? inner "object" with
      | none => simp [codeOf, fieldOf, found, code, bind, Except.bind, pure, Except.pure]
      | some value => exact .inl ⟨value, .nested found code⟩
    | _ => exact .inl ⟨_, .flat found nofun⟩

theorem tagged_eq (code : String) : ∃ more, tagged code = "0x" ++ more := by
  rw [tagged]
  split
  · next starts =>
    rw [String.startsWith, String.Slice.startsWith_string_iff, String.copy_toSlice] at starts
    obtain ⟨rest, whole⟩ := starts
    refine ⟨String.ofList rest, String.toList_inj.1 ?_⟩
    simpa using whole.symm
  · exact ⟨code, rfl⟩

/-- The fields of an artifact are checked: the interface is to be a list. -/
theorem check_of_list (contract code : String) (items : List Json) :
    Artifact.check [("name", .string contract), ("abi", .array items),
      ("bytecode", .string code)] = .accepted ⟨contract, items, code⟩ := rfl

/-- An interface that is no list is reported. -/
theorem check_of_not_list (contract code : String) (shape : ∀ items, value ≠ .array items) :
    Artifact.check [("name", .string contract), ("abi", value), ("bytecode", .string code)] =
      .broken [⟨["abi"], .listType⟩] := by
  cases value with
  | array items => exact absurd rfl (shape items)
  | _ => rfl

/-- What a document is loaded as that holds a text as its code. -/
def ofCode (contract : String) (members : Json.Members) (code : String) :
    Except Failure Artifact := do
  let artifact ← (Artifact.check [("name", .string contract),
    ("abi", (Json.find? members "abi").getD (.array [])),
    ("bytecode", .string (tagged code))]).required .artifact
  if !artifact.hasBytecode then throw (.toolchain (.emptyBytecode contract))
  pure artifact

/-- A document with code is read by its code. -/
theorem ofDocument_of_text {code : String} (holds : HoldsCode members (.string code))
    (given : code ≠ "") : ofDocument contract (.object members) = ofCode contract members code := by
  have filled : (Json.string code).isGiven = true := by
    simp [Json.isGiven, given]
  rw [ofDocument, codeOf_of_holds holds]
  simp only [bind, Except.bind, filled]
  rfl

/-- Code with an interface is an artifact, unless it is empty. -/
theorem ofCode_of_list {code : String} {items : List Json}
    (interface : HoldsInterface members items) :
    ofCode contract members code =
      if 2 < (tagged code).length then .ok ⟨contract, items, tagged code⟩
      else .error (.toolchain (.emptyBytecode contract)) := by
  have list : (Json.find? members "abi").getD (.array []) = .array items := by
    rcases interface with found | ⟨absent, rfl⟩
    · rw [found, Option.getD_some]
    · rw [absent, Option.getD_none]
  rw [ofCode, list, check_of_list]
  by_cases more : 2 < (tagged code).length <;>
    simp [Checked.required, Artifact.hasBytecode, more, bind, Except.bind, pure, Except.pure, throw,
      throwThe, MonadExceptOf.throw]

/-- A usable document is read as its artifact. -/
theorem ofDocument_of_usable (usable : Usable contract document artifact) :
    ofDocument contract document = .ok artifact := by
  cases usable with
  | @intro members code items holds interface more =>
    have given : code ≠ "" := by
      rintro rfl
      exact absurd more (by decide)
    rw [ofDocument_of_text holds given, ofCode_of_list interface, if_pos more]

theorem ofDocument_of_misshapen (misshapen : Misshapen document failure) :
    ofDocument contract document = .error failure := by
  cases misshapen with
  | document shape =>
    cases document with
    | object members => exact absurd rfl (shape members)
    | _ => rfl
  | code holds given shape =>
    rw [ofDocument, codeOf_of_holds holds]
    rename_i value
    simp only [bind, Except.bind, given]
    cases value with
    | string code => exact absurd rfl (shape code)
    | _ => rfl
  | interface holds given found shape =>
    rw [ofDocument_of_text holds given, ofCode, found, Option.getD_some,
      check_of_not_list _ _ shape]
    rfl

/-- With code, the interface is a list or of the wrong shape. -/
theorem interface_or_misshapen {code : String} (holds : HoldsCode members (.string code))
    (given : code ≠ "") : (∃ items, HoldsInterface members items) ∨
      Misshapen (.object members) (.invalid .artifact [⟨["abi"], .listType⟩]) := by
  cases found : Json.find? members "abi" with
  | none => exact .inl ⟨[], .inr ⟨found, rfl⟩⟩
  | some value =>
    cases value with
    | array items => exact .inl ⟨items, .inl found⟩
    | _ => exact .inr (.interface holds given found nofun)

/-- **Every document** is usable, misshapen, or without code. -/
theorem ofDocument_cases (contract : String) (document : Json) :
    (∃ artifact, Usable contract document artifact) ∨ (∃ failure, Misshapen document failure) ∨
      ∃ fault, ofDocument contract document = .error (.toolchain fault) := by
  cases document with
  | object members =>
    rcases holds_or_empty members with ⟨value, holds⟩ | empty
    case inr =>
      refine .inr (.inr ⟨.noBytecode contract, ?_⟩)
      rw [ofDocument, empty]
      rfl
    by_cases given : value.isGiven = true
    case neg =>
      refine .inr (.inr ⟨.noBytecode contract, ?_⟩)
      rw [ofDocument, codeOf_of_holds holds]
      simp only [bind, Except.bind, given]
      rfl
    cases value with
    | string code =>
      have filled : code ≠ "" := by
        rintro rfl
        exact absurd given (by decide)
      rcases interface_or_misshapen holds filled with ⟨items, interface⟩ | misshapen
      case inr => exact .inr (.inl ⟨_, misshapen⟩)
      by_cases more : 2 < (tagged code).length
      · exact .inl ⟨_, .intro holds interface more⟩
      · refine .inr (.inr ⟨.emptyBytecode contract, ?_⟩)
        rw [ofDocument_of_text holds filled, ofCode_of_list interface, if_neg more]
    | _ => exact .inr (.inl ⟨_, .code holds given nofun⟩)
  | _ => exact .inr (.inl ⟨_, .document nofun⟩)

/-! ## Places -/

/-- Where the compiled contract is in a folder of the output. -/
def pathIn (project : Project) (contract folder : String) : Path :=
  project.output ++ [folder, contract ++ ".json"]

/-- The compiled contract stands in a folder of the output. -/
def Offers (project : Project) (contract : String) (disk : Disk) (folder : String) : Prop :=
  folder ∈ disk.namesAt project.output ∧
    ∃ node, disk.look (project.pathIn contract folder) = .ok (some node)

/-- Looking for the compiled contract comes upon a name that is too long. -/
def Overlong (project : Project) (contract : String) (disk : Disk) : Prop :=
  disk.look (project.pathIn contract (contract ++ ".sol")) = .error .fileName ∨
    disk.look (project.pathIn contract (contract ++ ".sol")) = .ok none ∧
      ∃ folder ∈ disk.namesAt project.output,
        disk.look (project.pathIn contract folder) = .error .fileName

/-- **The compiled contract that is chosen**: that in the folder named like the contract, or else
that in the first folder that has it. -/
inductive Chosen (project : Project) (contract : String) (disk : Disk) : Path → Prop where
  | own {node : Node}
      (found : disk.look (project.pathIn contract (contract ++ ".sol")) = .ok (some node)) :
      Chosen project contract disk (project.pathIn contract (contract ++ ".sol"))
  | first {folder : String}
      (missing : disk.look (project.pathIn contract (contract ++ ".sol")) = .ok none)
      (fits : ¬ project.Overlong contract disk) (offers : project.Offers contract disk folder)
      (least : ∀ other, project.Offers contract disk other → ¬ other < folder) :
      Chosen project contract disk (project.pathIn contract folder)

/-- The file name of a plain contract is plain. -/
theorem isPlain_fileName (plain : IsPlain contract) : IsPlain (contract ++ ".json") :=
  plain.append ⟨by decide, by decide⟩

/-- A name with an ending is a step of a path. -/
theorem isStep_append (name : String) {ending : String} (more : 1 < ending.length) :
    Path.isStep (name ++ ending) = true := by
  have long : 1 < (name ++ ending).length := by
    rw [String.length_append]
    omega
  rw [Path.isStep, Bool.and_eq_true, Bool.not_eq_true', bne_iff_ne]
  constructor
  · rw [Bool.eq_false_iff]
    intro empty
    rw [String.isEmpty_iff.1 empty] at long
    exact absurd long (by decide)
  · intro point
    rw [point] at long
    exact absurd long (by decide)

/-- Where the artifact of a plain contract is looked for first. -/
theorem firstPath_of_plain (plain : IsPlain contract) :
    project.firstPath contract = project.pathIn contract (contract ++ ".sol") := by
  have folder : '/' ∉ (contract ++ ".sol").toList := (plain.append ⟨by decide, by decide⟩).1
  have file := (isPlain_fileName plain).1
  rw [firstPath, Path.child_of_plain _ folder (isStep_append contract (by decide)),
    Path.child_of_plain _ file (isStep_append contract (by decide)), List.append_assoc]
  rfl

/-- The pattern for the artifacts of a plain contract. -/
theorem pattern_of_plain (plain : IsPlain contract) :
    pattern contract = ["*", contract ++ ".json"] := by
  have file := (isPlain_fileName plain).1
  rw [pattern, String.append_assoc, Path.ofText_of_any file (isStep_append contract (by decide))]

/-- Where it is not in the folder named like it, a contract is looked for in all folders. -/
theorem locate_of_missing (plain : IsPlain contract)
    (missing : disk.look (project.pathIn contract (contract ++ ".sol")) = .ok none) :
    project.locate contract disk =
      match Glob.find disk ["*", contract ++ ".json"] project.output with
      | .error kind => .error (.plain kind)
      | .ok (path :: _) => .ok path
      | .ok [] => .error (.toolchain (.noArtifact contract project.output.text)) := by
  have any : Glob.isMisplaced "*" = false := by decide
  have file := Glob.isMisplaced_of_plain (isPlain_fileName plain).2
  have proper : ["*", contract ++ ".json"].any Glob.isMisplaced = false := by
    rw [List.any_cons, List.any_cons, any, file]
    rfl
  rw [locate, firstPath_of_plain plain, missing, pattern_of_plain plain]
  simp only [proper]
  rfl

/-- The name of a file is no step up. -/
theorem fileName_ne_up (contract : String) : contract ++ ".json" ≠ ".." := by
  intro up
  have length := congrArg String.length up
  rw [String.length_append] at length
  have ending : ".json".length = 5 := by decide
  have dots : "..".length = 2 := by decide
  omega

/-- With too long a name, no artifact is located. -/
theorem locate_of_overlong (plain : IsPlain contract) (long : project.Overlong contract disk) :
    project.locate contract disk = .error (.plain .fileName) := by
  rcases long with failed | ⟨missing, folder, listed, failed⟩
  · rw [locate, firstPath_of_plain plain, failed]
  · rw [locate_of_missing plain missing, Glob.find_of_long
      (isPlain_fileName plain).2 (fileName_ne_up contract) listed failed]

/-- Where no name is too long, the first of the folders is taken that have the contract. -/
theorem locate_of_fits (plain : IsPlain contract)
    (missing : disk.look (project.pathIn contract (contract ++ ".sol")) = .ok none)
    (fits : ¬ project.Overlong contract disk) :
    ((∀ folder, ¬ project.Offers contract disk folder) ∧ project.locate contract disk =
        .error (.toolchain (.noArtifact contract project.output.text))) ∨
      ∃ folder, project.Offers contract disk folder ∧
        (∀ other, project.Offers contract disk other → ¬ other < folder) ∧
          project.locate contract disk = .ok (project.pathIn contract folder) := by
  obtain ⟨found, ended, ascending, mem⟩ := Glob.find_of_fits (isPlain_fileName plain).2
    (fileName_ne_up contract) fun folder listed failed =>
      fits (.inr ⟨missing, folder, listed, failed⟩)
  have offered {folder : String} (offers : project.Offers contract disk folder) :
      project.pathIn contract folder ∈ found := (mem _).2 ⟨folder, offers.1, offers.2, rfl⟩
  rw [locate_of_missing plain missing, ended]
  cases found with
  | nil =>
    refine .inl ⟨fun folder offers => ?_, rfl⟩
    cases offered offers
  | cons first rest =>
    obtain ⟨folder, listed, stands, rfl⟩ := (mem first).1 (List.mem_cons_self ..)
    refine .inr ⟨folder, ⟨listed, stands⟩, fun other offers => ?_, rfl⟩
    rcases List.mem_cons.1 (offered offers) with same | later
    · have steps := List.append_cancel_left same
      cases steps
      exact String.lt_irrefl folder
    · exact (Glob.before_iff _ _ _ _).1 ((List.pairwise_cons.1 ascending).1 _ later)

/-- **A compiled contract** is chosen, or there is none, or a name is too long. -/
theorem locate_cases (plain : IsPlain contract) :
    (∃ path, project.Chosen contract disk path) ∨ project.Overlong contract disk ∨
      project.locate contract disk =
        .error (.toolchain (.noArtifact contract project.output.text)) := by
  cases looked : disk.look (project.pathIn contract (contract ++ ".sol")) with
  | error kind => exact .inr (.inl (.inl (Disk.fileName_of_look looked ▸ looked)))
  | ok node =>
    cases node with
    | some node => exact .inl ⟨_, .own looked⟩
    | none =>
      by_cases long : project.Overlong contract disk
      · exact .inr (.inl long)
      rcases locate_of_fits plain looked long with
        ⟨-, missing⟩ | ⟨folder, offers, least, -⟩
      · exact .inr (.inr missing)
      · exact .inl ⟨_, .first looked long offers least⟩

/-- The chosen path is where the artifact is located. -/
theorem locate_of_chosen (plain : IsPlain contract) (chosen : project.Chosen contract disk path) :
    project.locate contract disk = .ok path := by
  cases chosen with
  | own found => rw [locate, firstPath_of_plain plain, found]
  | @first folder missing fits offers least =>
    rcases locate_of_fits plain missing fits with ⟨none, -⟩ | ⟨other, offers', least', located⟩
    · exact absurd offers (none folder)
    · rw [located, String.le_antisymm (String.not_lt.1 (least other offers'))
        (String.not_lt.1 (least' folder offers))]

/-! ## Loading -/

/-- The document of the compiled contract that is chosen. -/
def Reads (project : Project) (contract : String) (disk : Disk) (document : Json) : Prop :=
  ∃ path text, project.Chosen contract disk path ∧
    (DiskTask.readText path).run.run disk = (.ok text, disk) ∧
      Json.ofToolOutput text = .ok document

/-- The document of an artifact that can be read. -/
theorem document_of_reads (plain : IsPlain contract)
    (reads : project.Reads contract disk document) :
    project.document contract disk = .ok document := by
  obtain ⟨path, text, chosen, read, parsed⟩ := reads
  rw [Project.document, locate_of_chosen plain chosen]
  simp only [bind, Except.bind, read, parsed]
  rfl

/-- A file of text is read, and its text is a document or no JSON. -/
theorem document_of_text (plain : IsPlain contract) (chosen : project.Chosen contract disk path)
    {text : String} (found : disk.look path = .ok (some (.file text.toUTF8))) :
    (∃ document, project.Reads contract disk document) ∨
      ∃ fault, project.document contract disk = .error (.toolchain fault) := by
  obtain ⟨place, followed, stands⟩ := Disk.look_eq_some_iff.1 found
  have valid : text.toUTF8.IsValidUTF8 := text.isValidUTF8
  obtain ⟨read, decoded⟩ := Text.exists_fileText_of_valid valid
  have opened : (DiskTask.readText path).run.run disk = (.ok read, disk) := by
    rw [DiskTask.run_readText followed stands, decoded]
  cases parsed : Json.ofToolOutput read with
  | ok document => exact .inl ⟨document, path, read, chosen, opened, parsed⟩
  | error reason =>
    refine .inr ⟨.unreadableArtifact path.text reason, ?_⟩
    rw [Project.document, locate_of_chosen plain chosen]
    simp only [bind, Except.bind, opened, parsed]
    rfl

/-- A usable document that can be read is an artifact. -/
theorem artifact_of_usable (plain : IsPlain contract)
    (reads : project.Reads contract disk document) (usable : Usable contract document artifact) :
    project.artifact contract disk = .ok artifact := by
  rw [artifact_eq, document_of_reads plain reads]
  exact ofDocument_of_usable usable

/-- A misshapen document that can be read is refused. -/
theorem artifact_of_misshapen (plain : IsPlain contract)
    (reads : project.Reads contract disk document) (misshapen : Misshapen document failure) :
    project.artifact contract disk = .error failure := by
  rw [artifact_eq, document_of_reads plain reads]
  exact ofDocument_of_misshapen misshapen

/-- With too long a name, there is no artifact. -/
theorem artifact_of_overlong (plain : IsPlain contract) (long : project.Overlong contract disk) :
    project.artifact contract disk = .error (.plain .fileName) := by
  rw [artifact_eq, Project.document, locate_of_overlong plain long]
  rfl

/-- A file of text holds a usable or a misshapen document, or it is the toolchain that fails. -/
theorem artifact_cases (plain : IsPlain contract)
    (texts : ∀ path, project.Chosen contract disk path →
      ∃ text : String, disk.look path = .ok (some (.file text.toUTF8))) :
    (∃ document artifact, project.Reads contract disk document ∧
        Usable contract document artifact) ∨
      (∃ document failure, project.Reads contract disk document ∧ Misshapen document failure) ∨
      project.Overlong contract disk ∨
      ∃ fault, project.artifact contract disk = .error (.toolchain fault) := by
  rcases locate_cases plain with ⟨path, chosen⟩ | long | missing
  · obtain ⟨text, found⟩ := texts path chosen
    rcases document_of_text plain chosen found with ⟨document, reads⟩ | ⟨fault, failed⟩
    · rcases ofDocument_cases contract document with
        ⟨artifact, usable⟩ | ⟨failure, misshapen⟩ | ⟨fault, failed⟩
      · exact .inl ⟨document, artifact, reads, usable⟩
      · exact .inr (.inl ⟨document, failure, reads, misshapen⟩)
      · refine .inr (.inr (.inr ⟨fault, ?_⟩))
        rw [artifact_eq, document_of_reads plain reads]
        exact failed
    · refine .inr (.inr (.inr ⟨fault, ?_⟩))
      rw [artifact_eq, failed]
      rfl
  · exact .inr (.inr (.inl long))
  · refine .inr (.inr (.inr ⟨.noArtifact contract project.output.text, ?_⟩))
    rw [artifact_eq, Project.document, missing]
    rfl

/-- The code of an artifact is tagged and not empty. -/
theorem Usable.code (usable : Usable contract document artifact) :
    artifact.name = contract ∧ ∃ more, more ≠ "" ∧ artifact.bytecode = "0x" ++ more := by
  cases usable with
  | @intro members code items holds interface more =>
    obtain ⟨rest, whole⟩ := tagged_eq code
    refine ⟨rfl, rest, ?_, whole⟩
    rintro rfl
    rw [whole] at more
    exact absurd more (by decide)

/-- **Loading a compiled contract** whose file holds text. It gives an artifact exactly for a usable
document, with the name of the contract and code behind `0x`. Apart from failures of the toolchain
it fails exactly for a misshapen document and for a name that is too long. -/
theorem artifact_outcomes (plain : IsPlain contract)
    (texts : ∀ path, project.Chosen contract disk path →
      ∃ text : String, disk.look path = .ok (some (.file text.toUTF8))) :
    (∀ artifact, project.artifact contract disk = .ok artifact ↔
      ∃ document, project.Reads contract disk document ∧ Usable contract document artifact) ∧
    (∀ artifact, project.artifact contract disk = .ok artifact → artifact.name = contract ∧
      ∃ more, more ≠ "" ∧ artifact.bytecode = "0x" ++ more) ∧
    ∀ failure, (∀ fault, failure ≠ .toolchain fault) →
      (project.artifact contract disk = .error failure ↔
        project.Overlong contract disk ∧ failure = .plain .fileName ∨
          ∃ document, project.Reads contract disk document ∧ Misshapen document failure) := by
  have delivered {artifact} (loaded : project.artifact contract disk = .ok artifact) :
      ∃ document, project.Reads contract disk document ∧ Usable contract document artifact := by
    rcases artifact_cases plain texts with
      ⟨document, other, reads, usable⟩ | ⟨document, failure, reads, misshapen⟩ | long | ⟨_, failed⟩
    · cases loaded.symm.trans (artifact_of_usable plain reads usable)
      exact ⟨document, reads, usable⟩
    · cases loaded.symm.trans (artifact_of_misshapen plain reads misshapen)
    · cases loaded.symm.trans (artifact_of_overlong plain long)
    · cases loaded.symm.trans failed
  refine ⟨fun artifact => ⟨delivered, ?_⟩, fun artifact loaded => ?_,
    fun failure foreign => ⟨fun failed => ?_, ?_⟩⟩
  · rintro ⟨document, reads, usable⟩
    exact artifact_of_usable plain reads usable
  · obtain ⟨document, -, usable⟩ := delivered loaded
    exact usable.code
  · rcases artifact_cases plain texts with
      ⟨document, other, reads, usable⟩ | ⟨document, other, reads, misshapen⟩ | long | ⟨fault, own⟩
    · cases failed.symm.trans (artifact_of_usable plain reads usable)
    · cases failed.symm.trans (artifact_of_misshapen plain reads misshapen)
      exact .inr ⟨document, reads, misshapen⟩
    · cases failed.symm.trans (artifact_of_overlong plain long)
      exact .inl ⟨long, rfl⟩
    · cases failed.symm.trans own
      exact absurd rfl (foreign fault)
  · rintro (⟨long, rfl⟩ | ⟨document, reads, misshapen⟩)
    · exact artifact_of_overlong plain long
    · exact artifact_of_misshapen plain reads misshapen

/-- A project with the usual output folder. -/
def workshop : Project := ⟨[], ["out"], "forge"⟩

/-- An output with compiled contracts in two folders; the latter one holds a document. -/
def twoFolders (document : Json) : Disk :=
  ⟨[(["out"], .folder), (["out", "B.sol"], .folder),
    (["out", "B.sol", "Token.json"], .file "".toUTF8), (["out", "A.sol"], .folder),
    (["out", "A.sol", "Token.json"],
      .file (Json.indentedText Json.plainSpelling document).toUTF8)]⟩

/-- Of two folders, the first one is chosen. -/
theorem chosen_twoFolders (document : Json) : workshop.Chosen "Token" (twoFolders document) path ↔
    path = ["out", "A.sol", "Token.json"] := by
  have missing : (twoFolders document).look (workshop.pathIn "Token" ("Token" ++ ".sol")) =
      .ok none := rfl
  have names : (twoFolders document).namesAt workshop.output = ["B.sol", "A.sol"] := rfl
  have latter : workshop.Offers "Token" (twoFolders document) "A.sol" :=
    ⟨by simp [names], _, rfl⟩
  have folders {folder : String} (offers : workshop.Offers "Token" (twoFolders document) folder) :
      folder = "B.sol" ∨ folder = "A.sol" := by
    simpa [names] using offers.1
  constructor
  · intro chosen
    cases chosen with
    | own found => cases missing.symm.trans found
    | first missing fits offers least =>
      rcases folders offers with rfl | rfl
      · exact absurd (by decide) (least _ latter)
      · rfl
  · rintro rfl
    refine .first missing ?_ latter fun other offers => ?_
    · rintro (failed | ⟨-, folder, listed, failed⟩)
      · cases missing.symm.trans failed
      · rw [names] at listed
        rcases List.mem_pair.1 listed with rfl | rfl <;> cases failed
    · rcases folders offers with rfl | rfl <;> decide

/-- The document in the first of two folders is read. -/
theorem reads_twoFolders (exact : document.IsExact) :
    workshop.Reads "Token" (twoFolders document) document := by
  have read : (DiskTask.readText ["out", "A.sol", "Token.json"]).run.run (twoFolders document) =
      (.ok (Json.indentedText Json.plainSpelling document), twoFolders document) := by
    have decoded := Text.fileText?_toUTF8 (Json.not_mem_indentedText exact)
    rw [@DiskTask.run_readText (twoFolders document) _ ["out", "A.sol", "Token.json"] _ rfl rfl,
      decoded]
  exact ⟨_, _, (chosen_twoFolders document).2 rfl, read, Json.ofToolOutput_indentedText exact⟩

/-- Of two folders, the first one in order counts. Its code is taken, be it with `0x` or without,
and loading fails for code that is a number. -/
theorem artifact_outcomes_two_folders :
    workshop.artifact "Token" (twoFolders (.object
      [("bytecode", .object [("object", .string "6080")])])) = .ok ⟨"Token", [], "0x6080"⟩ ∧
    workshop.artifact "Token" (twoFolders (.object [("bytecode", .int 5)])) =
      .error (.plain .operation) := by
  have plain : IsPlain "Token" := ⟨by decide, by decide⟩
  have texts (document : Json) (path : Path)
      (chosen : workshop.Chosen "Token" (twoFolders document) path) :
      ∃ text : String, (twoFolders document).look path = .ok (some (.file text.toUTF8)) := by
    rw [(chosen_twoFolders document).1 chosen]
    exact ⟨_, rfl⟩
  have code : tagged "6080" = "0x6080" := by decide +kernel
  have usable : Usable "Token" (.object [("bytecode", .object [("object", .string "6080")])])
      ⟨"Token", [], tagged "6080"⟩ :=
    .intro (.nested rfl rfl) (.inr ⟨rfl, rfl⟩) (by decide +kernel)
  rw [code] at usable
  have misshapen : Misshapen (.object [("bytecode", .int 5)]) (.plain .operation) :=
    .code (.flat rfl nofun) rfl nofun
  constructor
  · refine ((artifact_outcomes plain (texts _)).1 _).2 ⟨_, reads_twoFolders ?_, usable⟩
    simp [Json.IsExact, Json.MembersExact]
  · have foreign (fault : ToolchainFault) : Failure.plain .operation ≠ .toolchain fault := nofun
    refine ((artifact_outcomes plain (texts _)).2.2 _ foreign).2
      (.inr ⟨_, reads_twoFolders ?_, misshapen⟩)
    simp [Json.IsExact, Json.MembersExact]

end UpgradeGate.Project
