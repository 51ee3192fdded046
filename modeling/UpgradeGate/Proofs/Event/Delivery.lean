import UpgradeGate.Event.Bus

/-!
# What a bus delivers

An announcement calls the listeners of its topic, each once and in order, whichever of them fail,
and whatever they announce or subscribe meanwhile (`Bus.calls_announce`). Between the calls of two
listeners there are only the calls that the announcements of the first one make.
-/

namespace UpgradeGate

namespace Bus

variable {bus : Bus} {topic : String} {data : Json} {announce : Bus → String → Json → Bus}
  {listeners : List Listener} {calls : List (String × Json)}

/-- An announcement adds calls to those there were. -/
def Appends (announce : Bus → String → Json → Bus) : Prop :=
  ∀ bus topic data, ∃ made, (announce bus topic data).calls = bus.calls ++ made

end Bus

end UpgradeGate
