import TrackedEntity.Session.Basic

/-!
# The steps of a session

`Step` lists what can be done in a session, `Session.perform` does it, and `Session.advance` reports
it: the answer or what halted the step, the log that it wrote, and the state afterwards of the mask
or the cache that the step was about. A step that fails does not end the session.
-/

namespace TrackedEntity

/-- A piece of work on one entity. -/
inductive EntityWork where
  | get (name : String)
  | set (name : String) (v : Value)
  | delete (name : String)
  | hasChanges (keys : List Value)
  | changes
  | tryGet (key : Value)
  | trySet (key v : Value)
  | describe
  | subscribe (handler : String)
  | unsubscribe (handler : String)
  /-- Tells the subscribers about a property. -/
  | tell (name : String)
  | handlers
  /-- What the entity is. -/
  | nature

/-- One step of a session. -/
inductive Step where
  | size (cache : CacheName)
  | clear (cache : CacheName)
  | settings (cache : CacheName)
  | contains (cache : CacheName) (contract : Mention)
  | compiled (cache : CacheName) (contract : Mention)
  /-- Asks for a compiled type while another caller does the same. -/
  | raced (cache : CacheName) (contract : Mention)
  | build (cache : CacheName) (contract : Mention) (entity : String)
  /-- An entity of a class that derives from the compiled one. -/
  | buildDerived (cache : CacheName) (contract : Mention) (className entity : String)
  | buildMany (cache : CacheName) (contract : Mention) (count : Value)
      (initializer : Option Expr) (batch : String)
  | next (batch entity : String)
  /-- Compiles without a cache and makes an entity. -/
  | direct (contract : Mention) (settings : Table String Value) (entity : String)
  /-- Changes the environment; a missing value removes a variable. -/
  | environment (changes : List (String × Option String))
  /-- Replaces an attribute of a hook directory. -/
  | patch (directory name : String) (member : HookMember)
  /-- Makes an entity of the class that all entities derive from. -/
  | bare
  | entity (name : String) (work : EntityWork)

/-- What a step answers. -/
inductive Answer where
  | nothing
  | value (v : Value)
  | text (s : String)
  | truth (b : Bool)
  | count (n : Nat)
  | settings (s : Settings)
  | compiled (className : String) (number : Nat)
  | changes (changes : List (String × Value))
  | names (names : List String)
  | nature (tracks derives : Bool) (className : String)
  /-- A batch has no more entities. -/
  | exhausted

/-- The report of a step. -/
structure Report where
  result : Except Halt Answer
  log : List Value
  /-- The mask of the entity that the step was about. -/
  mask : Option Mask
  /-- The cache that the step was about, unless it is the shared one. -/
  cache : Option Cache

/-- The work on an entity. -/
def EntityWork.perform (run : Runner) (scene : Scene) : EntityWork → Exec Answer
  | .get name => do return .value (← scene.getAttribute run name)
  | .set name v => do
    scene.setAttribute run name (← Exec.make v)
    return .nothing
  | .delete name => do
    scene.deleteAttribute name
    return .nothing
  | .hasChanges keys => do return .truth (← scene.hasChanges (← keys.mapM Exec.make))
  | .changes => do return .changes (← scene.changes run)
  | .tryGet key => do
    let report ← scene.tryGet run (← Exec.make key)
    return .value (← Exec.make (.ofReport report))
  | .trySet key v => do
    let key ← Exec.make key
    return .truth (← scene.trySet run key (← Exec.make v))
  | .describe => do return .text (← scene.describe run)
  | .subscribe handler => do
    scene.subscribe run (scene.handler handler)
    return .nothing
  | .unsubscribe handler => do
    scene.unsubscribe run (scene.handler handler)
    return .nothing
  | .tell name => do
    scene.tell run name
    return .nothing
  | .handlers => do return .names ((← scene.subscribers run).map (·.name))
  | .nature => do return .nature true true (← Exec.className)

namespace Step

/-- The cache that a step is about. -/
def cache? : Step → Option CacheName
  | .size c | .clear c | .settings c | .contains c _ | .compiled c _ | .raced c _ | .build c _ _
  | .buildDerived c _ _ _ | .buildMany c _ _ _ _ => some c
  | _ => none

/-- The entity that a step is about. -/
def entity? : Step → Option String
  | .entity name _ => some name
  | _ => none

end Step

namespace Session

open Effect

/-- The answer that shows a compiled type. -/
def present (name : CacheName) (cached : CachedType) : Effect Answer := do
  return .compiled cached.type.className (← appearance name cached)

/-- Does a step. -/
def perform : Step → Effect Answer
  | .size name => do return .count (← cache name).size
  | .clear name => do
    setCache name (← cache name).clear
    return .nothing
  | .settings name => do return .settings (← cache name).settings
  | .contains name m => do
    let contract ← contract m
    return .truth (← ofExcept ((← cache name).contains contract))
  | .compiled name m => do present name (← compiled name m)
  | .raced name m => do
    let contract ← contract m
    present name (← request name (Cache.requestRaced (← get).catalog contract))
  | .build name m entity => do
    let cached ← compiled name m
    return .text (← create entity cached.type cached.type.newEntity)
  | .buildDerived name m className entity => do
    let cached ← compiled name m
    return .text (← create entity cached.type (cached.type.newDerived className))
  | .buildMany name m count initializer batch => do
    let contract ← contract m
    let count ← make count
    ofExcept (requireCount count)
    let cached ← request name (Cache.request (← get).catalog contract)
    modify fun s =>
      { s with batches := s.batches.put batch (.start cached.type count initializer) }
    return .nothing
  | .next batch entity => do
    match ← draw batch entity with
    | some className => return .text className
    | none => return .exhausted
  | .direct m given entity => do
    let contract ← contract m
    let settings ← ofExcept (← settings given)
    let type ← ofExcept ((← get).catalog.compile settings contract)
    return .text (← create entity type type.newEntity)
  | .environment changes => do
    changes.forM fun (name, v) => do
      let e ← ofExcept ((← get).environment.change name v)
      modify fun s => { s with environment := e }
    return .nothing
  | .patch directory name member => do
    let member ← making member.make
    let hooks ← ofExcept ((← get).catalog.hooks.patch directory name member)
    modify fun s => { s with catalog.hooks := hooks }
    return .nothing
  | .bare => do fail (.notCompiled ((← get).catalog.classes.definition .entityBase).name)
  | .entity name work => onEntity name fun run scene => work.perform run scene

/-- Does a step and reports it. -/
def advance (s : Session) (step : Step) : Report × Session :=
  let (result, s) := (perform step).run { s with traces.history := [] }
  ({ result
     log := s.traces.log
     mask := (step.entity?.bind s.entities.get?).map (·.state.mask)
     cache := (step.cache?.bind fun name => if name = .shared then none else some name).bind
       s.caches.get? }, s)

end Session

end TrackedEntity
