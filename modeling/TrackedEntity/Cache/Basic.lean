import TrackedEntity.Compiled.Basic

/-!
# Caches of compiled types

A cache compiles each contract once and gives the same compiled type to everybody who asks for it.
Compiled types have an identity: the number of the compilation that made them, which no other
compiled type of the cache has, not even after the cache was cleared.

Asking has two parts, and other callers may come between them. `find` looks the contract up.
`compileMissing` is for those who found nothing: it looks again, and only if there is still nothing
it compiles, stores and counts. A failed compilation stores and counts nothing, so that the next
request tries again.

A contract that is not a class cannot be stored. Looking one up fails if it cannot be a key.
-/

namespace TrackedEntity

/-- A compiled type in a cache. -/
structure CachedType where
  /-- The number of the compilation that made it. -/
  number : Nat
  type : CompiledType

/-- Compiled types by contract. -/
structure Cache where
  /-- The settings of all compilations. -/
  settings : Settings
  types : Table ClassRef CachedType
  /-- The number of successful compilations so far. -/
  compilations : Nat

namespace Cache

/-- A cache without types. -/
def empty (settings : Settings) : Cache := ⟨settings, [], 0⟩

/-- The number of contracts in the cache. -/
def size (c : Cache) : Nat := c.types.length

/-- Drops all types. The count of compilations goes on. -/
def clear (c : Cache) : Cache := { c with types := [] }

/-- Looks a contract up. -/
def find (c : Cache) : Contract → Except Fault (Option CachedType)
  | .ofClass ref => .ok (c.types.get? ref)
  | .ofValue v => do
    v.requireHashable
    return none

/-- Whether a contract is in the cache. -/
def contains (c : Cache) (contract : Contract) : Except Fault Bool :=
  (c.find contract).map Option.isSome

/-- Stores a newly compiled type and counts the compilation. -/
def store (c : Cache) (ref : ClassRef) (type : CompiledType) : CachedType × Cache :=
  let cached := ⟨c.compilations, type⟩
  (cached, { c with types := c.types.put ref cached, compilations := c.compilations + 1 })

/-- Computations that may change a cache; a fault leaves behind what was done before. -/
abbrev Request := ExceptT Fault (StateM Cache)

/-- Compiles a contract, unless it is in the cache by now. -/
def compileMissing (catalog : Catalog) (contract : Contract) : Request CachedType := do
  let c ← get
  -- someone else may have compiled it since the caller looked
  match ← c.find contract with
  | some cached => return cached
  | none =>
    let type ← catalog.compile c.settings contract
    let (cached, c) := c.store type.schema.contract type
    set c
    return cached

/-- The compiled type of a contract, compiled now if need be. The other callers do what they do
between a failed look-up and the compilation. -/
def requestAmong (catalog : Catalog) (contract : Contract) (others : StateM Cache Unit) :
    Request CachedType := do
  match ← (← get).find contract with
  | some cached => return cached
  | none =>
    others
    compileMissing catalog contract

/-- The compiled type of a contract, compiled now if need be. -/
def request (catalog : Catalog) (contract : Contract) : Request CachedType :=
  requestAmong catalog contract (pure ())

/-- The compiled type of a contract that another caller asks for as well, between the look-up and
the compilation. -/
def requestRaced (catalog : Catalog) (contract : Contract) : Request CachedType :=
  requestAmong catalog contract do let _ ← (request catalog contract).run

end Cache

end TrackedEntity
