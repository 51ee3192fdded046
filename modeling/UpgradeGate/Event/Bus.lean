import UpgradeGate.Event.Emission
import UpgradeGate.Json.Basic

/-!
# The event bus

Listeners subscribe to topics. Announcing a topic calls the listeners that are subscribed to it at
that moment, in the order of their subscriptions; one that fails is passed over. A listener may
announce something itself and may subscribe another listener, which the announcement under way does
not reach. Announcements lie inside each other as deep as there is room for on the stack, which is a
parameter of announcing.
-/

namespace UpgradeGate

/-- A listener: its name and what it does when it is called. -/
structure Listener where
  name : String
  /-- It raises an exception that its name is the text of, and does nothing else. -/
  fails : Bool
  /-- The topic that it announces. -/
  announces : Option String
  /-- The plain listener that it subscribes to its own topic. -/
  subscribes : Option String
  deriving DecidableEq, Repr

/-- A listener that only takes note. -/
def Listener.plain (name : String) : Listener := ⟨name, false, none, none⟩

/-- The subscriptions of all topics in use, and the calls of listeners so far. -/
structure Bus where
  subscriptions : List (String × List Listener)
  calls : List (String × Json)

namespace Bus

/-- The bus without subscriptions. -/
def quiet : Bus := ⟨[], []⟩

/-- The listeners of a topic. -/
def listeners (bus : Bus) (topic : String) : List Listener :=
  (bus.subscriptions.lookup topic).getD []

/-- Add a listener to the subscriptions of a topic. -/
def addTo (topic : String) (listener : Listener) :
    List (String × List Listener) → List (String × List Listener)
  | [] => [(topic, [listener])]
  | (other, present) :: rest =>
    if other = topic then (other, present ++ [listener]) :: rest
    else (other, present) :: addTo topic listener rest

/-- Subscribe a listener to a topic. -/
def subscribe (bus : Bus) (topic : String) (listener : Listener) : Bus :=
  { bus with subscriptions := addTo topic listener bus.subscriptions }

/-- Note a call of a listener. -/
def note (bus : Bus) (listener : Listener) (data : Json) : Bus :=
  { bus with calls := bus.calls ++ [(listener.name, data)] }

/-- Let a listener take a call: it is noted, and then the listener fails, or announces what it
announces and subscribes whom it subscribes. -/
def react (announce : Bus → String → Json → Bus) (topic : String)
    (call : Hearing Listener Json) : StateM Bus (Except Raised Unit) := do
  let listener := call.listener
  modify (·.note listener call.data)
  if listener.fails then pure (.error ⟨.ok listener.name⟩)
  else
    if let some next := listener.announces then
      modify (announce · next (.object [("via", .string listener.name)]))
    if let some name := listener.subscribes then modify (·.subscribe topic (.plain name))
    pure (.ok ())

/-- Let listeners react, one after the other, to an announcement of a topic. -/
def deliver (announce : Bus → String → Json → Bus) (topic : String) (data : Json) (bus : Bus)
    (listeners : List Listener) : Bus :=
  (((emission data listeners).handle (react announce topic)).run bus).2

/-- Announce a topic, with announcements inside announcements up to `depth`. -/
def announce : (depth : Nat) → Bus → String → Json → Bus
  | 0, bus, _, _ => bus
  | depth + 1, bus, topic, data => deliver (announce depth) topic data bus (bus.listeners topic)

end Bus

end UpgradeGate
