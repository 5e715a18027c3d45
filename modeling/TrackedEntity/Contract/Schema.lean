import TrackedEntity.Contract.Declaration
import TrackedEntity.Hook.Resolution
import TrackedEntity.Settings.Basic
import TrackedEntity.Value.Making

/-!
# Schemas

`Catalog.analyze` validates a contract and flattens it into a `Schema`: the properties of the
contract and of everything it derives from, in the order of a breadth-first walk, the first
declaration of a name winning. Mutable properties are numbered in that order; their numbers are
the ordinals of change masks. Read-only properties are not tracked and carry `untracked`.

Analysis fails when the contract is a compiled class, when a visited class declares something that
no contract may declare, when the contract has more methods than the guard allows, when a property
name is reserved, or when the hooks of a property cannot be resolved; in this order, the last two
property by property.
-/

namespace TrackedEntity

/-- The ordinal of properties that are not tracked. -/
def untracked : Int := -1

/-- The class that declares a property. -/
structure Owner where
  ref : ClassRef
  qualname : String
deriving DecidableEq, Repr

/-- One property of a flattened contract. -/
structure Property where
  name : String
  type : DeclaredType
  mutable : Bool
  /-- The position in change masks; `untracked` for read-only properties. -/
  ordinal : Int
  /-- The initial value. -/
  default : Value
  extension : Option Extension
  metadata : List Metadata
  owner : Option Owner

/-- A contract, validated and flattened. -/
structure Schema where
  contract : ClassRef
  properties : List Property
  /-- Whether entities notify subscribers of changes. -/
  needsNotification : Bool
  /-- The annotations of the entity type, collected from all classes. -/
  annotations : List (Value × Value)

namespace Schema

/-- The mutable properties, in order of their ordinals. -/
def mutable (s : Schema) : List Property := s.properties.filter (·.mutable)

/-- The number of tracked properties. -/
def mutableCount (s : Schema) : Nat := s.mutable.length

/-- The property of a name. -/
def find? (s : Schema) (name : String) : Option Property := s.properties.find? (·.name == name)

end Schema

/-- Names that entities need for themselves. -/
def reservedNames : List String :=
  ["has_changes", "get_changes", "try_get", "try_set", "property_changed"]

/-- Whether no property may have this name. -/
def isReserved (name : String) : Bool :=
  reservedNames.contains name || name.toList.head? == some '_'

/-- What a walk over a contract has collected. -/
structure Collected where
  /-- The winning declaration of each name, with its owner. -/
  declared : Table String (Owner × Declaration)
  annotations : List (Value × Value)
  /-- The methods of all visited classes. -/
  methods : Nat

namespace Collected

/-- Nothing yet. -/
def empty : Collected := ⟨[], [], 0⟩

/-- Adds one class to what was collected from the classes before it. -/
def add (collected : Collected) (ref : ClassRef) (c : ClassDef) (own : List Declaration)
    (annotations : List (Value × Value)) : Collected where
  declared := own.foldl (fun t d => t.putNew d.name (⟨ref, c.qualname⟩, d)) collected.declared
  annotations := annotations.foldl (fun t a => Value.putNewEntry t a.1 a.2) collected.annotations
  methods := collected.methods + c.methodCount

/-- The number of accessor methods that the winning declarations stand for: each property is read,
and each mutable one is assigned as well. -/
def accessorCount (collected : Collected) : Nat :=
  collected.declared.length + (collected.declared.filter (·.2.2.mutable)).length

/-- The methods together with the accessors of the winning declarations. -/
def methodCount (collected : Collected) : Nat := collected.methods + collected.accessorCount

end Collected

namespace Catalog

variable (catalog : Catalog)

/-- Collects the declarations of classes in the order of a walk. -/
def collectFrom : Collected → List ClassRef → Except Fault Collected
  | collected, [] => .ok collected
  | collected, ref :: refs => do
    let c := catalog.classes.definition ref
    let own ← catalog.declarations c
    let annotations ← c.entityAnnotations
    collectFrom (collected.add ref c own annotations) refs

/-- The classes that a contract is flattened from: the notification marker only sets a flag. -/
def inspected (contract : ClassRef) : List ClassRef :=
  (catalog.classes.contracts contract).filter (· ≠ .notifyPropertyChanged)

/-- A declaration, given its ordinal and its hooks. -/
def property (ordinal : Nat) (owner : Owner) (d : Declaration) : Except Fault Property := do
  if isReserved d.name then throw (.reservedName d.name owner.qualname)
  let extension ← d.marker.mapM fun directory =>
    (catalog.hooks.find directory).resolve d.name d.mutable
  return {
    name := d.name, type := d.type, mutable := d.mutable
    ordinal := if d.mutable then ordinal else untracked
    default := d.default, extension, metadata := d.metadata, owner := some owner }

/-- The properties of declarations, the mutable ones numbered from an ordinal on. -/
def propertiesFrom : (ordinal : Nat) → List (Owner × Declaration) → Except Fault (List Property)
  | _, [] => .ok []
  | ordinal, (owner, d) :: rest => do
    let p ← catalog.property ordinal owner d
    let ps ← propertiesFrom (if d.mutable then ordinal + 1 else ordinal) rest
    return p :: ps

/-- The schema of a contract. -/
def analyze (settings : Settings) (contract : ClassRef) : Except Fault Schema := do
  let c := catalog.classes.definition contract
  if catalog.classes.derivesFromCompiled contract then throw (.alreadyCompiled c.qualname)
  let collected ← catalog.collectFrom .empty (catalog.inspected contract)
  -- a contract with behaviour is refused before its hooks are resolved
  if settings.guardRejects collected.methodCount collected.declared.length then
    throw (.tooManyMethods c.qualname collected.methodCount collected.declared.length)
  let properties ← catalog.propertiesFrom 0 (collected.declared.map (·.2))
  return {
    contract, properties
    needsNotification := (catalog.classes.contracts contract).contains .notifyPropertyChanged
    annotations := collected.annotations }

end Catalog

end TrackedEntity
