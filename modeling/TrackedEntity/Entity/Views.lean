import TrackedEntity.Accessor.Access
import TrackedEntity.Value.Description

/-!
# The surface of an entity

What can be asked of any entity: whether and what it changed, its properties by name, its
attributes, its subscribers, and its description.

Mutable properties are reported by their stored values, and by name only once they were assigned.
Read-only properties are always read.

An attribute of an entity is, in this order, a property, the channel, something that was assigned to
the entity under that name, one of the operations that all entities share, or something that its
class holds.
-/

namespace TrackedEntity.Scene

open Exec

variable (run : Runner) (scene : Scene)

/-- The token of a key; a key that is no text has none, and what cannot be a key is refused. -/
def token? (key : Value) : Exec (Option Token) := do
  ofExcept key.requireHashable
  return key.str?.bind scene.tokens.get?

/-! ### Changes -/

/-- Whether the mask has a token's ordinal. -/
def isMarked (t : Token) : Exec Bool := do
  ofExcept ((← entity).mask.isSet t.ordinal)

/-- Whether any of the keys names a mutable property that changed; the search ends at the first. -/
def anyChanged : List Value → Exec Bool
  | [] => return false
  | key :: keys => do
    match ← scene.token? key with
    | none => anyChanged keys
    | some t =>
      if t.mutable then
        if ← isMarked t then return true
      anyChanged keys

/-- Whether a list of keys asks for any change at all: it is empty or holds a single absence. -/
def asksForAny : List Value → Exec Bool
  | [] => return true
  | [key] => ofExcept (Value.identityFirst key .none)
  | key :: _ => do
    -- The comparison with a lone absence asks the first key before it looks at the number of keys.
    let _ ← ofExcept (Value.identityFirst key .none)
    return false

/-- Whether any property, or any of the named ones, changed. -/
def hasChanges (keys : List Value) : Exec Bool := do
  if ← asksForAny keys then return (← entity).mask.any
  scene.anyChanged keys

/-- The changed properties of ordinals, with the values to report. -/
def changesAt : List Nat → Exec (List (String × Value))
  | [] => return []
  | ordinal :: ordinals => do
    match scene.names[ordinal]? with
    | none => fail .slotOutOfRange
    | some name =>
      match scene.tokens.get? name with
      | none => fail (.noAttribute (← className) name)
      | some t =>
        let v ← t.read run
        return (name, v) :: (← changesAt ordinals)

/-- The changed properties with their stored values, in order of their ordinals. -/
def changes : Exec (List (String × Value)) := do
  let mask := (← entity).mask
  if mask.any then scene.changesAt run mask.ordinals else return []

/-- The text of the channel of the entity, where it stands among values. -/
def channelText : Exec String := do
  return ((← entity).channel.map Channel.describe).getD ""

/-- The text of the changes. -/
def changesText (channel : String) (changes : List (String × Value)) : String :=
  ", ".intercalate (changes.map fun (name, v) => name ++ "=" ++ v.describeWith channel)

/-- The description of the entity: its class and its changes. -/
def describe : Exec String := do
  let changes ← scene.changes run
  return (← className) ++ "(" ++ changesText (← channelText) changes ++ ")"

/-! ### Properties by name -/

/-- Reads a property if it has something to report. -/
def tryGet (key : Value) : Exec (Option Value) := do
  match ← scene.token? key with
  | none => return none
  | some t =>
    if t.mutable then
      if !(← isMarked t) then return none
    return some (← t.read run)

/-- Assigns a property; the answer tells whether there is one that can be assigned. -/
def trySet (key v : Value) : Exec Bool := do
  match (← scene.token? key).bind (·.setter) with
  | none => return false
  | some s =>
    s.assign run v
    return true

/-! ### Attributes -/

/-- The attribute through which entities show their channel. -/
def channelAttribute : String := "property_changed"

/-- Whether an attribute is the channel of the entity. -/
def isChannel (name : String) : Exec Bool := do
  return name == channelAttribute && (← entity).channel.isSome

/-- The operations that all entities share. -/
def sharedOperations : List String := ["has_changes", "get_changes", "try_get", "try_set"]

/-- What the class of the entity has under a name where no property has it. -/
def classAttribute? (name : String) : Option Value :=
  if sharedOperations.contains name then some (.method .written name)
  else scene.constants.get? name

/-- Reads an attribute. -/
def getAttribute (name : String) : Exec Value := do
  match scene.tokens.get? name with
  | some t => t.getter.read run
  | none =>
    if ← isChannel name then return .channel
    let own := (← entity).extras.bind fun extras => extras.get? name
    match own.or (scene.classAttribute? name) with
    | some v => make v
    | none => fail (.noAttribute (← className) name)

/-- Replaces the attributes that no property stands behind, if the entity can have any. -/
def editExtras (name : String) (change : Table String Value → Exec (Table String Value)) :
    Exec Unit := do
  let e ← entity
  match e.extras with
  | some extras => setEntity { e with extras := some (← change extras) }
  | none =>
    if (scene.classAttribute? name).isSome then fail (.fixedAttribute e.className name)
    fail (.noAttribute e.className name)

/-- Assigns an attribute. -/
def setAttribute (name : String) (v : Value) : Exec Unit := do
  match scene.tokens.get? name with
  | some t =>
    match t.setter with
    | some s => s.assign run v
    | none => fail (.noSetter name (← className))
  | none =>
    if ← isChannel name then fail (.noSetter name (← className))
    scene.editExtras name fun extras => return extras.put name v

/-- Deletes an attribute, which neither a property nor the channel allows. -/
def deleteAttribute (name : String) : Exec Unit := do
  if (scene.tokens.get? name).isSome then fail (.notDeletable name (← className))
  if ← isChannel name then fail (.noDeleter name (← className))
  scene.editExtras name fun extras => do
    if extras.has name then return extras.erase name
    fail (.noAttribute (← className) name)

/-! ### Subscribers -/

/-- The channel of the entity, which is asked for an operation. Whatever else the entity shows in
its place has no such operation. -/
def channelFor (operation : String) : Exec (Channel Handler) := do
  match (← entity).channel with
  | some c => return c
  | none => fail (.noAttribute (← scene.getAttribute run channelAttribute).typeName operation)

/-- Changes the subscribers of the entity. -/
def editChannel (change : Edit Handler) : Exec Unit := do
  let e ← entity
  setEntity { e with channel := e.channel.map (·.edit change) }
  record (.edited change)

/-- Subscribes a handler. -/
def subscribe (h : HandlerSpec) : Exec Unit := do
  let c ← scene.channelFor run "add"
  editChannel (← ofExcept (h.addition (Value.describeWith c.describe)))

/-- Unsubscribes a handler. -/
def unsubscribe (h : HandlerSpec) : Exec Unit := do
  let c ← scene.channelFor run "remove"
  match ← ofExcept (h.removal? c.handlers) with
  | some change => editChannel change
  | none => return

/-- Tells the subscribers about a property. -/
def tell (name : String) : Exec Unit := do
  let _ ← scene.channelFor run "emit"
  notify run (← self) name

/-- The subscribed handlers, in order. -/
def subscribers : Exec (List Handler) := do
  match (← entity).channel with
  | some c => return c.handlers
  | none => fail (.notIterable (← scene.getAttribute run channelAttribute).typeName)

/-- The handler of a name; an unknown name stands for the absence of a value. -/
def handler (name : String) : HandlerSpec :=
  (scene.handlers.get? name).getD (.value .none)

end TrackedEntity.Scene
