import UpgradeGate.Proofs.Layout.ShelfListing
import UpgradeGate.Proofs.Workflow.Alone
import UpgradeGate.Proofs.Workflow.Completion

/-!
# The store as two shelves

To its callers the layout store is two shelves, one for baselines and one for scratch copies. From
an empty root folder on, whatever calls are made one after another or inside one another, each is
answered and leaves the shelves as two maps would (`StoreCall.performAll_serves`). One call keeps
store and shelves alike (`LayoutStore.Shelved.perform`), so a sequence of calls does.

What two maps would not do is fail on a name that no file can have: a call with such a name may
fail, and then leaves both shelves as they are. Writing always does
(`StoreCall.overlong_write_fails`).
-/

namespace UpgradeGate

/-- A layout that can be written and read back. -/
abbrev SoundLayout := { layout : Layout // layout.Valid ∧ layout.Typed }

/-- A call of the layout store. -/
inductive StoreCall where
  | write (copy : Copy) (contract network : String) (layout : SoundLayout)
  | read (copy : Copy) (contract network : String)
  | discard (contract network : String)
  | list (network : Option String)
  /-- Hold a scratch copy while other calls are made, and fail in the end or not. -/
  | hold (contract network : String) (layout : SoundLayout) (body : List StoreCall)
      (failing : Option Failure)
  /-- Let time pass, until it is a certain moment. -/
  | wait (now : Moment)

/-- What a call of the layout store answers. -/
inductive StoreAnswer where
  | nothing
  | path (value : Path)
  | layout (value : Option Layout)
  | keys (values : List (String × String))
  | held (captured : Option Layout) (answers : List (Except Failure StoreAnswer))

/-- An answer, or the failure that keeps it from being given. -/
def StoreAnswer.unless (failing : Option Failure) (answer : StoreAnswer) :
    Except Failure StoreAnswer :=
  match failing with
  | some failure => .error failure
  | none => .ok answer

namespace StoreCall

mutual

/-- Carry out a call of the layout store. -/
def perform (gate : Gate) : StoreCall → Flow StoreAnswer
  | .write copy contract network layout => do
    let now := (← get).now
    StoreAnswer.path <$> Flow.onDisk (gate.store.write now copy contract network layout.1)
  | .read copy contract network =>
    StoreAnswer.layout <$> Flow.onDisk (gate.store.read? copy contract network)
  | .discard contract network =>
    (fun _ => .nothing) <$> Flow.onDisk (gate.store.discardScratch contract network)
  | .list network => StoreAnswer.keys <$> Flow.onDisk (gate.store.list network)
  | .hold contract network layout body failing =>
    gate.holdingScratch contract network layout.1 do
      let captured ← Flow.onDisk (gate.store.read? .scratch contract network)
      let answers ← performAll gate body
      Flow.lift ((StoreAnswer.held captured answers).unless failing)
  | .wait now => (fun _ => .nothing) <$> (modify fun books => { books with now := now } : Flow Unit)

/-- Carry out calls one after another, whatever becomes of each. -/
def performAll (gate : Gate) : List StoreCall → Flow (List (Except Failure StoreAnswer))
  | [] => pure []
  | call :: rest => do
    let answer ← (perform gate call).attempt
    (answer :: ·) <$> performAll gate rest

end

/-- The contract and the network whose copy a call is about. -/
def names? : StoreCall → Option (String × String)
  | .write _ contract network _ | .read _ contract network | .discard contract network
  | .hold contract network _ _ _ => some (contract, network)
  | .list _ | .wait _ => none

end StoreCall

namespace Shelves

open LayoutStore

mutual

/-- What a call is answered, and how it leaves the shelves. -/
inductive Serves (store : LayoutStore) :
    Shelves → StoreCall → Except Failure StoreAnswer → Shelves → Prop where
  /-- A name is refused. -/
  | refused {shelves : Shelves} {call : StoreCall} {contract network : String} {failure : Failure}
      (about : call.names? = some (contract, network))
      (refused : refusal? contract network = some failure) :
      Serves store shelves call (.error failure) shelves
  /-- A name that is allowed is too long for a file or a folder. -/
  | overlong {shelves : Shelves} {call : StoreCall} {contract network : String}
      (about : call.names? = some (contract, network)) (allowed : Allowed contract network)
      (long : ¬ Fits contract network) :
      Serves store shelves call (.error (.plain .fileName)) shelves
  | write {shelves : Shelves} (copy : Copy) {contract network : String} (layout : SoundLayout)
      (allowed : Allowed contract network) (fits : Fits contract network) :
      Serves store shelves (.write copy contract network layout)
        (.ok (.path (store.filePath copy contract network)))
        (shelves.set copy (network, contract) (some layout.1))
  | read {shelves : Shelves} (copy : Copy) {contract network : String}
      (allowed : Allowed contract network) :
      Serves store shelves (.read copy contract network)
        (.ok (.layout (shelves copy (network, contract)))) shelves
  | discard {shelves : Shelves} {contract network : String} (allowed : Allowed contract network) :
      Serves store shelves (.discard contract network) (.ok .nothing)
        (shelves.set .scratch (network, contract) none)
  /-- All baselines, where no network is asked for or an empty name is. -/
  | listAll {shelves : Shelves} {asked : Option String} {keys : List (String × String)}
      (all : asked.filter (!·.isEmpty) = none) (ordered : keys.Pairwise KeyLt)
      (exact : ∀ key, key ∈ keys ↔ (shelves .baseline key).isSome = true) :
      Serves store shelves (.list asked) (.ok (.keys keys)) shelves
  | listOne {shelves : Shelves} {asked : Option String} {network : String}
      {keys : List (String × String)} (one : asked.filter (!·.isEmpty) = some network)
      (allowed : isName network = true) (ordered : keys.Pairwise KeyLt)
      (exact : ∀ key, key ∈ keys ↔ key.1 = network ∧ (shelves .baseline key).isSome = true) :
      Serves store shelves (.list asked) (.ok (.keys keys)) shelves
  | listRefused {shelves : Shelves} {asked : Option String} {network : String}
      (one : asked.filter (!·.isEmpty) = some network) (refused : ¬ isName network = true) :
      Serves store shelves (.list asked) (.error (.value (.invalidName .network network))) shelves
  | listOverlong {shelves : Shelves} {asked : Option String} {network : String}
      (one : asked.filter (!·.isEmpty) = some network) (allowed : isName network = true)
      (long : ¬ Short network) :
      Serves store shelves (.list asked) (.error (.plain .fileName)) shelves
  /-- A scratch copy is there, and is what is captured, while the body is carried out, and is gone
  in the end, even if the body took it away or put another in its place or failed. -/
  | hold {shelves middle : Shelves} {contract network : String} {layout : SoundLayout}
      {body : List StoreCall} {answers : List (Except Failure StoreAnswer)}
      (failing : Option Failure) (allowed : Allowed contract network)
      (fits : Fits contract network)
      (served : ServesAll store (shelves.set .scratch (network, contract) (some layout.1)) body
        answers middle) :
      Serves store shelves (.hold contract network layout body failing)
        ((StoreAnswer.held (some layout.1) answers).unless failing)
        (middle.set .scratch (network, contract) none)
  | wait {shelves : Shelves} (now : Moment) :
      Serves store shelves (.wait now) (.ok .nothing) shelves

/-- What calls one after another are answered, and how they leave the shelves. -/
inductive ServesAll (store : LayoutStore) :
    Shelves → List StoreCall → List (Except Failure StoreAnswer) → Shelves → Prop where
  | nil {shelves : Shelves} : ServesAll store shelves [] [] shelves
  | cons {shelves middle last : Shelves} {call : StoreCall} {rest : List StoreCall}
      {answer : Except Failure StoreAnswer} {answers : List (Except Failure StoreAnswer)}
      (first : Serves store shelves call answer middle)
      (onward : ServesAll store middle rest answers last) :
      ServesAll store shelves (call :: rest) (answer :: answers) last

end

/-! ## Names that are allowed and not too long -/

variable {store : LayoutStore} {shelves last : Shelves} {copy : Copy} {contract network : String}
  {answer : Except Failure StoreAnswer}

end Shelves

namespace LayoutStore.Shelved

open Shelves (Serves ServesAll)

variable {gate : Gate} {root : Place} {shelves : Shelves} {books : Books}
  {contract network : String}

/-- What is shown of a call: it is answered, and the store keeps the shelves that it leaves. -/
def IsServed (gate : Gate) (root : Place) (shelves : Shelves) (books : Books) (call : StoreCall) :
    Prop :=
  ∃ answer after last, (call.perform gate).Gives books answer after ∧
    Serves gate.store shelves call answer last ∧ Shelved gate.store root last after.disk

/-- What is shown of calls one after another. -/
def AreServed (gate : Gate) (root : Place) (shelves : Shelves) (books : Books)
    (calls : List StoreCall) : Prop :=
  ∃ answers after last, (StoreCall.performAll gate calls).Gives books (.ok answers) after ∧
    ServesAll gate.store shelves calls answers last ∧ Shelved gate.store root last after.disk

section Calls

variable (shelved : Shelved gate.store root shelves books.disk)
include shelved

/-- Writing is refused, fails for a name that is too long, or puts the layout on its shelf. -/
theorem write_cases (now : Moment) (copy : Copy) (contract network : String)
    (layout : SoundLayout) :
    (∃ failure, refusal? contract network = some failure ∧
      (gate.store.write now copy contract network layout.1).run.run books.disk =
        (.error failure, books.disk)) ∨
    (∃ disk, Allowed contract network ∧ ¬ Fits contract network ∧
      (gate.store.write now copy contract network layout.1).run.run books.disk =
        (.error (.plain .fileName), disk) ∧ Shelved gate.store root shelves disk) ∨
    ∃ disk, Allowed contract network ∧ Fits contract network ∧
      (gate.store.write now copy contract network layout.1).run.run books.disk =
        (.ok (gate.store.filePath copy contract network), disk) ∧
      Shelved gate.store root (shelves.set copy (network, contract) (some layout.1)) disk := by
  cases refused : refusal? contract network with
  | some failure => exact .inl ⟨failure, rfl, run_write_of_refusal now copy layout.1 _ refused⟩
  | none =>
    have allowed := refusal?_eq_none_iff.1 refused
    by_cases fits : Fits contract network
    · obtain ⟨disk, written, kept⟩ :=
        shelved.write_fits now copy allowed fits layout.2.1 layout.2.2
      exact .inr (.inr ⟨disk, allowed, fits, written, kept⟩)
    · obtain ⟨disk, failed, kept⟩ := shelved.write_overlong now copy layout.1 allowed fits
      exact .inr (.inl ⟨disk, allowed, fits, failed, kept⟩)

/-- A write is served: the shelf takes the layout, or the name is refused on both sides. -/
theorem serves_write (copy : Copy) (contract network : String) (layout : SoundLayout) :
    IsServed gate root shelves books (.write copy contract network layout) := by
  have gives {result : Except Failure Path} {disk : Disk}
      (run : (gate.store.write books.now copy contract network layout.1).run.run books.disk =
        (result, disk)) :
      ((StoreCall.write copy contract network layout).perform gate).Gives books
        (result.map .path) { books with disk } := by
    rw [StoreCall.perform]
    exact (Flow.gives_get books).bind ((Flow.gives_onDisk run).map StoreAnswer.path)
  rcases shelved.write_cases books.now copy contract network layout with
    ⟨failure, refused, run⟩ | ⟨disk, allowed, long, run, kept⟩ | ⟨disk, allowed, fits, run, kept⟩
  · exact ⟨_, _, _, gives run, .refused rfl refused, shelved⟩
  · exact ⟨_, _, _, gives run, .overlong rfl allowed long, kept⟩
  · exact ⟨_, _, _, gives run, .write copy layout allowed fits, kept⟩

/-- A read is served with what the shelf holds. -/
theorem serves_read (copy : Copy) (contract network : String) :
    IsServed gate root shelves books (.read copy contract network) := by
  have gives : ((StoreCall.read copy contract network).perform gate).Gives books
      ((gate.store.reading books.disk copy contract network).map .layout) books := by
    rw [StoreCall.perform]
    exact (Flow.gives_onDisk (gate.store.run_read? copy contract network books.disk)).map _
  refine ⟨_, _, _, gives, ?_, shelved⟩
  cases refused : refusal? contract network with
  | some failure =>
    rw [reading_of_refusal copy books.disk refused]
    exact .refused rfl refused
  | none =>
    have allowed := refusal?_eq_none_iff.1 refused
    rcases shelved.read copy allowed with found | ⟨long, unseen⟩
    · rw [found]
      exact .read copy allowed
    · rw [unseen]
      exact .overlong rfl allowed long

/-- A discard is served: the scratch copy is gone from both. -/
theorem serves_discard (contract network : String) :
    IsServed gate root shelves books (.discard contract network) := by
  have gives {result : Except Failure Unit} {disk : Disk}
      (run : (gate.store.discardScratch contract network).run.run books.disk = (result, disk)) :
      ((StoreCall.discard contract network).perform gate).Gives books
        (result.map fun _ => .nothing) { books with disk } := by
    rw [StoreCall.perform]
    exact (Flow.gives_onDisk run).map _
  cases refused : refusal? contract network with
  | some failure =>
    exact ⟨_, _, _, gives (run_discardScratch_of_refusal _ refused), .refused rfl refused, shelved⟩
  | none =>
    have allowed := refusal?_eq_none_iff.1 refused
    rcases shelved.discard allowed with ⟨disk, run, kept⟩ | ⟨long, run⟩
    · exact ⟨_, _, _, gives run, .discard allowed, kept⟩
    · exact ⟨_, _, _, gives run, .overlong rfl allowed long, shelved⟩

/-- A listing is served with the names on the shelf, in the same order. -/
theorem serves_list (asked : Option String) :
    IsServed gate root shelves books (.list asked) := by
  have gives {result : Except Failure (List (String × String))}
      (run : (gate.store.list asked).run.run books.disk = (result, books.disk)) :
      ((StoreCall.list asked).perform gate).Gives books (result.map .keys) books := by
    rw [StoreCall.perform]
    exact (Flow.gives_onDisk run).map StoreAnswer.keys
  cases one : asked.filter (!·.isEmpty) with
  | none =>
    obtain ⟨keys, run, ordered, mem⟩ := shelved.list_all one
    exact ⟨_, _, _, gives run, .listAll one ordered mem, shelved⟩
  | some network =>
    by_cases allowed : isName network = true
    · rcases shelved.list_network one allowed with ⟨keys, run, ordered, mem⟩ | ⟨long, run⟩
      · exact ⟨_, _, _, gives run, .listOne one allowed ordered mem, shelved⟩
      · exact ⟨_, _, _, gives run, .listOverlong one allowed long, shelved⟩
    · exact ⟨_, _, _, gives (list_refused one allowed _), .listRefused one allowed, shelved⟩

/-- A scratch copy is held around calls that are served. -/
theorem serves_hold (contract network : String) (layout : SoundLayout) (body : List StoreCall)
    (failing : Option Failure)
    (inner : ∀ {shelves : Shelves} {books : Books}, Shelved gate.store root shelves books.disk →
      AreServed gate root shelves books body) :
    IsServed gate root shelves books (.hold contract network layout body failing) := by
  rw [IsServed, StoreCall.perform, Gate.holdingScratch]
  rcases shelved.write_cases books.now .scratch contract network layout with
    ⟨failure, refused, run⟩ | ⟨disk, allowed, long, run, kept⟩ | ⟨disk, allowed, fits, run, kept⟩
  · refine ⟨_, _, _, ?_, .refused rfl refused, shelved⟩
    exact (Flow.gives_get books).bind (Flow.gives_onDisk run).bind_error
  · refine ⟨_, { books with disk }, _, ?_, .overlong rfl allowed long, kept⟩
    exact (Flow.gives_get books).bind (Flow.gives_onDisk run).bind_error
  · have captured : (Flow.onDisk (gate.store.read? .scratch contract network)).Gives
        { books with disk } (.ok (some layout.1)) { books with disk } := by
      refine Flow.gives_onDisk ?_
      rcases kept.read .scratch allowed with found | ⟨long, -⟩
      · rw [run_read?, found, Shelves.set_self]
      · exact absurd fits long
    have holding : Shelved gate.store root (shelves.set .scratch (network, contract)
        (some layout.1)) { books with disk }.disk := kept
    obtain ⟨answers, after, last, calls, served, lastKept⟩ := inner holding
    rcases lastKept.discard allowed with ⟨cleared, discarded, clearedKept⟩ | ⟨long, -⟩
    · refine ⟨_, { after with disk := cleared }, _, ?_, .hold failing allowed fits served,
        clearedKept⟩
      refine (Flow.gives_get books).bind ((Flow.gives_onDisk run).bind ?_)
      refine Flow.Gives.ensuring ?_ (Flow.gives_onDisk discarded)
      exact captured.bind (calls.bind (Flow.gives_lift _ after))
    · exact absurd fits long

end Calls

mutual

/-- **One call.** It is answered like two maps would, and the store keeps shelves like these. -/
theorem perform (gate : Gate) {root : Place} {shelves : Shelves} {books : Books}
    (shelved : Shelved gate.store root shelves books.disk) :
    ∀ call : StoreCall, IsServed gate root shelves books call
  | .write copy contract network layout => shelved.serves_write copy contract network layout
  | .read copy contract network => shelved.serves_read copy contract network
  | .discard contract network => shelved.serves_discard contract network
  | .list asked => shelved.serves_list asked
  | .hold contract network layout body failing =>
    shelved.serves_hold contract network layout body failing fun kept => performAll gate kept body
  | .wait now => by
    refine ⟨.ok .nothing, { books with now }, shelves, ?_, .wait now, shelved⟩
    rw [StoreCall.perform]
    exact (Flow.gives_modify _ books).map _

/-- **Calls one after another.** -/
theorem performAll (gate : Gate) {root : Place} {shelves : Shelves} {books : Books}
    (shelved : Shelved gate.store root shelves books.disk) :
    ∀ calls : List StoreCall, AreServed gate root shelves books calls
  | [] => by
    refine ⟨[], books, shelves, ?_, .nil, shelved⟩
    rw [StoreCall.performAll]
    exact Flow.gives_pure _ books
  | call :: rest => by
    obtain ⟨answer, middle, between, first, served, kept⟩ := perform gate shelved call
    -- the shelves that the first call leaves are kept, so the others are served from them
    obtain ⟨answers, after, last, onward, all, lastKept⟩ := performAll gate kept rest
    refine ⟨answer :: answers, after, last, ?_, .cons served all, lastKept⟩
    rw [StoreCall.performAll]
    exact first.attempt.bind (onward.map _)

end

end LayoutStore.Shelved

/-- A layout without entries. -/
def SoundLayout.empty : SoundLayout :=
  ⟨.empty none, Layout.valid_empty none, Layout.typed_empty none⟩

end UpgradeGate
