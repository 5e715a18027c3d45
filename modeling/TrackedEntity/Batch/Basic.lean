import TrackedEntity.Compiled.Basic

/-!
# Batches of entities

A batch makes entities of one compiled type one at a time, on request and in order; each is
initialized before it is given out. No entity is made before it is asked for. When an initializer
fails the batch is over: the failed entity is not given out, and all further requests find the
batch exhausted.

The count is any value at first. `requireCount` refuses those below one and those that have no
order. What is not a whole number is found out only when the first entity is asked for.
-/

namespace TrackedEntity

/-- Refuses a count that is less than one, or not comparable with it. -/
def requireCount (count : Value) : Except Fault Unit :=
  match count.real? with
  | some x =>
    if x.less (.ofInt 1) then .error (.batchTooSmall count.describe) else .ok ()
  | none => .error (.incomparable "<" count.typeName "int")

/-- A batch that may have entities left. -/
structure Batch where
  type : CompiledType
  count : Value
  /-- Run on each new entity with the entity and its index. -/
  initializer : Option Expr
  /-- The index of the next entity; `none` when the batch has ended. -/
  next : Option Nat

/-- What a request for the next entity finds. -/
inductive Drawn where
  | entity (e : EntityState)
  | halted (h : Halt)
  | exhausted

namespace Batch

/-- A batch at its beginning. -/
def start (type : CompiledType) (count : Value) (initializer : Option Expr) : Batch :=
  ⟨type, count, initializer, some 0⟩

/-- The batch after its end. -/
def ended (b : Batch) : Batch := { b with next := none }

/-- Runs the initializer on the entity at an index. -/
def runInitializer (b : Batch) (run : Runner) (index : Nat) : Exec Unit :=
  match b.initializer with
  | none => pure ()
  | some body => do let _ ← run body [← Exec.self, .int index]

/-- The entity at an index, made and initialized. -/
def make (b : Batch) (run : Runner) (index : Nat) : StateM Traces (Except Halt EntityState) :=
  match b.type.newEntity with
  | .error f => return .error (.fault f)
  | .ok e => do
    let (result, e) ← (b.runInitializer run index).runOn e
    return result.map fun () => e

/-- The next entity. -/
def draw (b : Batch) (run : Runner) : StateM Traces (Drawn × Batch) :=
  match b.next, b.count.integer? with
  | none, _ => return (.exhausted, b)
  | some _, none => return (.halted (.fault (.notAnInteger b.count.typeName)), b.ended)
  | some index, some count =>
    if index < count then do
      match ← b.make run index with
      | .ok e => return (.entity e, { b with next := some (index + 1) })
      | .error h => return (.halted h, b.ended)
    else return (.exhausted, b.ended)

end Batch

end TrackedEntity
