import BootSnapshot.PropertyList.Value

set_option autoImplicit false

namespace BootSnapshot.PropertyList

inductive Event where
  | openArray
  | openDictionary
  | close
  | leaf (value : Value)

/-- A collection that is not closed yet. -/
inductive Frame where
  /-- The items so far, last one first. -/
  | array (items : List Value)
  /-- The entries so far, and the key of an entry whose value is due. -/
  | dictionary (entries : Dictionary Value) (key : Option String)

namespace Frame

/-- A collection with one more value in it. In a dictionary a string is a key where one is due. -/
def add? : Frame → Value → Option Frame
  | .array items, value => some (.array (value :: items))
  | .dictionary entries (some key), value => some (.dictionary (entries.insert key value) none)
  | .dictionary entries none, .string key => some (.dictionary entries (some key))
  | .dictionary _ none, _ => none

def close? : Frame → Option Value
  | .array items => some (.array items.reverse)
  | .dictionary entries none => some (.dictionary entries)
  | .dictionary _ (some _) => none

end Frame

/-- How far a value is built: the collections that are open, innermost first, or the whole. -/
inductive Building where
  | within (frames : List Frame)
  | complete (value : Value)

namespace Building

def start : Building := .within []

/-- Puts a value into the innermost collection; outside all of them it is the whole. -/
def add? : Building → Value → Option Building
  | .within [], value => some (.complete value)
  | .within (frame :: outer), value => (frame.add? value).map fun frame => .within (frame :: outer)
  | .complete _, _ => none

def step? : Building → Event → Option Building
  | .within frames, .openArray => some (.within (.array [] :: frames))
  | .within frames, .openDictionary => some (.within (.dictionary .empty none :: frames))
  | .within (frame :: outer), .close =>
    frame.close?.bind fun value => add? (.within outer) value
  | building, .leaf value => building.add? value
  | _, _ => none

def run? (building : Building) : List Event → Option Building
  | [] => some building
  | event :: rest => (building.step? event).bind fun next => next.run? rest

end Building

/-- Events stand for a value if the collections are closed, the items of dictionaries come in pairs
of a string and a value, and there is exactly one value outermost. -/
def Value.ofEvents? (events : List Event) : Option Value :=
  match Building.start.run? events with
  | some (.complete value) => some value
  | _ => none

end BootSnapshot.PropertyList
