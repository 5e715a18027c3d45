import TrackedEntity.Accessor.Token
import TrackedEntity.Compiled.ClassName
import TrackedEntity.Program.Eval

/-!
# Compiled types

`Catalog.compile` turns a contract into a `CompiledType`: the schema, a token for each property,
and what the entities of the type start from. The layout of their masks is chosen by the number of
mutable properties.

A contract may also be something that is not a class at all; then compilation fails.
-/

namespace TrackedEntity

/-- Something given as a contract. -/
inductive Contract where
  | ofClass (ref : ClassRef)
  | ofValue (v : Value)

/-- A contract, ready for making entities. -/
structure CompiledType where
  schema : Schema
  className : String
  /-- The name of the contract in reports. -/
  contractName : String
  module : String
  doc : Value
  tokens : Table String Token
  /-- The names of the mutable properties, by ordinal. -/
  names : List String
  layout : Layout
  /-- The initial values of the slots, by ordinal. -/
  defaults : List Value
  /-- What entities read from their class where no property has the name. -/
  constants : Table String Value

namespace Catalog

/-- Compiles a class. -/
def compileClass (catalog : Catalog) (settings : Settings) (contract : ClassRef) :
    Except Fault CompiledType := do
  let schema ← catalog.analyze settings contract
  let layout ← Layout.allocate schema.mutableCount
  let tokens ← synthesize catalog.hooks schema.needsNotification schema.properties
  let c := catalog.classes.definition contract
  return {
    schema, layout, tokens
    className := compiledClassName c.name settings.stripInterfaceMark
    contractName := c.qualname
    module := c.module
    doc := c.doc
    names := schema.mutable.map (·.name)
    defaults := schema.mutable.map (·.default)
    constants := catalog.classes.constants contract }

/-- Compiles whatever is given as a contract. -/
def compile (catalog : Catalog) (settings : Settings) :
    Contract → Except Fault CompiledType
  | .ofClass ref => catalog.compileClass settings ref
  | .ofValue v => .error (.notAClass v.describe)

/-- Analyzes whatever is given as a contract. -/
def analyzeContract (catalog : Catalog) (settings : Settings) :
    Contract → Except Fault Schema
  | .ofClass ref => catalog.analyze settings ref
  | .ofValue v => .error (.notAClass v.describe)

end Catalog

namespace CompiledType

/-- What stays fixed for an entity of the type, or of a class derived from it. -/
def scene (t : CompiledType) (handlers : Table String HandlerSpec) : Scene :=
  { tokens := t.tokens, names := t.names, layout := t.layout, constants := t.constants, handlers }

/-- Whether the class shows a channel, or something in its place. -/
def notifies (t : CompiledType) : Bool :=
  t.schema.needsNotification || t.constants.has Scene.channelAttribute

/-- A new entity: every slot holds its default, nothing is marked, nobody has subscribed. Only the
entities of the bare contract can have no further attributes. -/
def newEntity (t : CompiledType) : Except Fault EntityState := do
  return {
    className := t.className
    slots := t.defaults
    mask := ← t.layout.new
    channel := if t.schema.needsNotification then some .empty else none
    extras := if t.schema.contract = .object then none else some [] }

/-- A new entity of a class that derives from the compiled one. -/
def newDerived (t : CompiledType) (className : String) : Except Fault EntityState := do
  return { ← t.newEntity with className, extras := some [] }

end CompiledType

end TrackedEntity
