import TrackedEntity.Batch.Basic
import TrackedEntity.Cache.Basic
import TrackedEntity.Compiled.Mention
import TrackedEntity.Settings.Source

/-!
# Sessions

A session is a course of work with contracts, caches and entities. It has caches of its own by name
and one cache that is shared by the whole process; the shared cache is created when it is first
used, with the settings that the environment gives at that time. Entities and batches are kept by
name, each with the compiled type that it was made from: later changes to hooks, caches or the
environment do not reach them.
-/

namespace TrackedEntity

/-- An entity of a session. -/
structure Entity where
  type : CompiledType
  state : EntityState

/-- One of the caches of a session. -/
inductive CacheName where
  /-- The cache of the whole process. -/
  | shared
  | named (name : String)
deriving DecidableEq, Repr

/-- The state of a session. -/
structure Session where
  catalog : Catalog
  handlers : Table String HandlerSpec
  /-- The process environment. -/
  environment : Environment
  /-- The caches by name; the shared one is missing before its first use. -/
  caches : Table CacheName Cache
  entities : Table String Entity
  batches : Table String Batch
  /-- The compiled types that answers have shown, in order of appearance. -/
  shown : List (CacheName × Nat)
  traces : Traces

namespace Session

/-- How deeply bodies may call bodies. -/
def depthLimit : Nat := 1000

/-- Computations of a session. What one did before it failed stays done. -/
abbrev Effect := ExceptT Halt (StateM Session)

namespace Effect

/-- Ends with a fault. -/
def fail (f : Fault) : Effect α := throw (.fault f)

/-- The result of a computation that touches nothing. -/
def ofExcept : Except Fault α → Effect α
  | .ok a => pure a
  | .error f => fail f

/-- A computation that leaves traces only. -/
def leaving (x : StateM Traces α) : Effect α := do
  let s ← get
  let (a, traces) := x.run s.traces
  set { s with traces }
  return a

/-- Makes the objects that a computation asks for. -/
def making (x : Value.Making α) : Effect α := do
  ofExcept (← leaving fun t =>
    let (made, next) := x.run t.nextSerial
    (made, { t with nextSerial := next }))

/-- Makes an object. -/
def make (v : Value) : Effect Value := making v.make

/-! ### Contracts and caches -/

/-- The settings that the environment gives now, beside values given outright. -/
def settings (given : Table String Value) : Effect (Except Fault Settings) := do
  return Settings.load { given, environment := (← get).environment, file := "" }

/-- The contract that a mention stands for. -/
def contract (m : Mention) : Effect Contract := do
  let (contract, catalog) ← making ((← get).catalog.resolveMention (← settings []) m)
  modify fun s => { s with catalog }
  return contract

/-- Stores a cache. -/
def setCache (name : CacheName) (c : Cache) : Effect Unit :=
  modify fun s => { s with caches := s.caches.put name c }

/-- The cache of a name, created now if it is the shared one and is missing. -/
def cache (name : CacheName) : Effect Cache := do
  match (← get).caches.get? name with
  | some c => return c
  | none =>
    let c := Cache.empty (← ofExcept (← settings []))
    setCache name c
    return c

/-- A request to a cache. -/
def request (name : CacheName) (r : Cache.Request α) : Effect α := do
  let (result, c) := r.run (← cache name)
  setCache name c
  ofExcept result

/-- The compiled type of a contract from a cache. -/
def compiled (name : CacheName) (m : Mention) : Effect CachedType := do
  let contract ← contract m
  request name (Cache.request (← get).catalog contract)

/-- The number of a compiled type, by first appearance in the session. -/
def appearance (name : CacheName) (cached : CachedType) : Effect Nat := do
  let s ← get
  match s.shown.idxOf? (name, cached.number) with
  | some n => return n
  | none =>
    set { s with shown := s.shown ++ [(name, cached.number)] }
    return s.shown.length

/-! ### Entities -/

/-- What stays fixed for an entity of a type. -/
def sceneOf (type : CompiledType) : Effect Scene := do return type.scene (← get).handlers

/-- Stores an entity. -/
def setEntity (name : String) (e : Entity) : Effect Unit :=
  modify fun s => { s with entities := s.entities.put name e }

/-- Stores a new entity; the answer is its class name. -/
def create (name : String) (type : CompiledType) (made : Except Fault EntityState) :
    Effect String := do
  let state ← ofExcept made
  setEntity name ⟨type, state⟩
  return state.className

/-- Works on an entity. -/
def onEntity (name : String) (work : Runner → Scene → Exec α) : Effect α := do
  match (← get).entities.get? name with
  | none => fail (.noAttribute "session" name)
  | some e =>
    let scene ← sceneOf e.type
    let (result, state) ← leaving ((work (scene.run depthLimit) scene).runOn e.state)
    setEntity name { e with state }
    match result with
    | .ok a => return a
    | .error h => throw h

/-- The next entity of a batch, stored under a name; the answer is its class name. -/
def draw (batch entity : String) : Effect (Option String) := do
  match (← get).batches.get? batch with
  | none => fail (.noAttribute "session" batch)
  | some b =>
    let scene ← sceneOf b.type
    let (drawn, b) ← leaving (b.draw (scene.run depthLimit))
    modify fun s => { s with batches := s.batches.put batch b }
    match drawn with
    | .exhausted => return none
    | .halted h => throw h
    | .entity e =>
      setEntity entity ⟨b.type, e⟩
      return some e.className

end Effect

end Session

end TrackedEntity
