import TrackedEntity.Contract.Schema
import TrackedEntity.Mask.Layout

/-!
# Property tokens

A token tells how one property is read and assigned; all entities of a type share it. Reading
returns the slot of a mutable property, calls the getter hook if there is one, or is a fault for a
read-only property without hook. The *reader* of a mutable property returns the slot in any case,
so that reports of changes show what was assigned and not what a hook makes of it.
-/

namespace TrackedEntity

/-- How a property is read. -/
inductive Getter where
  | slot (ordinal : Int)
  /-- A read-only property without getter hook. -/
  | unreadable (property owner : String)
  /-- A hook that is called with the entity. -/
  | hook (h : Hook)
  /-- A hook that is called with the entity and the value in the slot. -/
  | hookWithSlot (h : Hook) (ordinal : Int)
  /-- A hook of a read-only property, called with the entity and the zero value. -/
  | hookWithDefault (h : Hook) (default : Value)

/-- How a property is assigned. -/
structure Setter where
  name : String
  ordinal : Int
  /-- The hook that decides about an assignment. -/
  hook : Option Hook
  /-- Without hook: whether values are compared by their own equality alone. -/
  direct : Bool
  /-- Whether subscribers are told. -/
  notifies : Bool

/-- How a property is read for reports. -/
inductive Reader where
  /-- As it is read otherwise. -/
  | getter
  | slot (ordinal : Int)
deriving DecidableEq

/-- The access to one property. -/
structure Token where
  name : String
  ordinal : Int
  getter : Getter
  setter : Option Setter
  reader : Option Reader

namespace Token

/-- Whether the property can be assigned and is tracked. -/
def mutable (t : Token) : Bool := t.setter.isSome && t.ordinal != untracked

/-- Whether reports read the property through a reader of its own. -/
def hasReader (t : Token) : Bool := t.reader.isSome

/-- Whether reports read the property as it is read otherwise. -/
def readsDirectly (t : Token) : Bool :=
  match t.reader with
  | none | some .getter => true
  | some (.slot _) => false

end Token

namespace Property

/-- How the property is read. -/
def getter (p : Property) : Getter :=
  match p.extension with
  | none =>
    if p.mutable then .slot p.ordinal
    else .unreadable p.name ((p.owner.map (·.qualname)).getD "contract")
  | some x =>
    if !x.passesCurrent then .hook x.getter
    else if p.mutable then .hookWithSlot x.getter p.ordinal
    else .hookWithDefault x.getter p.default

/-- How the property is assigned. The check for equality is looked up by the declared type. -/
def setter (hooks : HookCatalog) (notifies : Bool) (p : Property) : Except Fault Setter := do
  p.type.requireHashable hooks.unhashable?
  return {
    name := p.name, ordinal := p.ordinal, hook := p.extension.bind (·.setter)
    direct := p.type.isPrimitive, notifies }

/-- The token of a property. -/
def token (hooks : HookCatalog) (notifies : Bool) (p : Property) : Except Fault Token := do
  if p.mutable then
    let setter ← p.setter hooks notifies
    return {
      name := p.name, ordinal := p.ordinal, getter := p.getter, setter := some setter
      reader := some (if p.extension.isNone then .getter else .slot p.ordinal) }
  else
    return {
      name := p.name, ordinal := p.ordinal, getter := p.getter, setter := none
      reader := some .getter }

end Property

/-- The tokens of properties, in order. -/
def synthesize (hooks : HookCatalog) (notifies : Bool) (properties : List Property) :
    Except Fault (Table String Token) := do
  let tokens ← properties.mapM (Property.token hooks notifies)
  return Table.ofPairs (tokens.map fun t => (t.name, t))

end TrackedEntity
