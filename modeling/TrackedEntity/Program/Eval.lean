import TrackedEntity.Entity.Views
import TrackedEntity.Value.Operations

/-!
# Evaluating bodies

`Expr.eval` evaluates an expression on its arguments by recursion on the expression. Whatever the
expression does to the entity may call further hooks and handlers, and those have bodies again;
they are run by the `Runner` that `eval` is given.

`Scene.run` ties the knot: at depth `n + 1` it evaluates a body with the runner of depth `n`, and at
depth zero it is exhausted. So an operation run at some depth may nest hooks and handlers that
deeply, and everything about it can be shown by induction on the depth.
-/

namespace TrackedEntity

open Exec

namespace Value

/-- Changes as a mapping from names to values. -/
def ofChanges (changes : List (String × Value)) : Value :=
  .dict .written (changes.map fun (name, v) => (.str name, v))

/-- The answer to reading a property that may have nothing to report. -/
def ofReport (report : Option Value) : Value :=
  .tuple .written [.bool report.isSome, report.getD .none]

end Value

namespace Expr

variable (run : Runner) (scene : Scene) (args : List Value)

/-- The first argument, which bodies work on: the entity, or whatever a channel without an entity
was given for a sender. -/
def subject : Exec Value :=
  match args with
  | [] => fail .slotOutOfRange
  | v :: _ => return v

/-- The argument at a position. -/
def argument (position : Int) : Exec Value :=
  if !Position.isWord position then fail .positionTooLarge
  else
    match (Position.fromEnds? args.length position).bind fun i => args[i]? with
    | some v => return v
    | none => fail .slotOutOfRange

/-- Work on the entity; a subject that is no entity has no attribute of the given name. -/
def onEntity (name : String) (work : Exec α) : Exec α := do
  match ← subject args with
  | .entity _ => work
  | v => fail (.noAttribute v.typeName name)

mutual

/-- Evaluates an expression. -/
def eval : Expr → Exec Value
  | .const v => make v
  | .arg i => argument args i
  | .argCount => return .int args.length
  | .get name => do
    match ← subject args with
    | .entity _ => scene.getAttribute run name
    | v => make (← ofExcept (v.part name))
  | .tryGet name =>
    onEntity args "try_get" do make (.ofReport (← scene.tryGet run (.str name)))
  | .changes => onEntity args "get_changes" do make (.ofChanges (← scene.changes run))
  | .hasChanges keys =>
    onEntity args "has_changes" do return .bool (← scene.hasChanges (← keys.mapM make))
  | .set name e => do
    let v ← eval e
    onEntity args name (scene.setAttribute run name v)
    return .none
  | .trySet name e =>
    onEntity args "try_set" do
      let v ← eval e
      return .bool (← scene.trySet run (.str name) v)
  | .equals a b => do
    let x ← eval a
    let y ← eval b
    return .bool (← ofExcept (x.equals y))
  | .isNone e => do
    let v ← eval e
    return .bool (v.same .none)
  | .not e => do
    let v ← eval e
    return .bool (!(← isTrue v))
  | .and a b => do
    let x ← eval a
    if ← isTrue x then eval b else return x
  | .or a b => do
    let x ← eval a
    if ← isTrue x then return x else eval b
  | .ite c a b => do
    let x ← eval c
    if ← isTrue x then eval a else eval b
  | .plus a b => do
    let x ← eval a
    let y ← eval b
    make (← ofExcept (x.plus y))
  | .atLeast a b => do
    let x ← eval a
    let y ← eval b
    return .bool (← ofExcept (x.atLeast y))
  | .strip e => do
    let v ← eval e
    make (← ofExcept v.strip)
  | .tuple es => do make (.tuple .written (← evalAll es))
  | .log e => do
    let v ← eval e
    Exec.log v
    return v
  | .seq es => do return (← evalAll es).getLastD .none
  | .raise kind text => fail (.raised kind text)
  | .subscribe name => do
    scene.subscribe run (scene.handler name)
    return .none
  | .unsubscribe name => do
    scene.unsubscribe run (scene.handler name)
    return .none
  | .describe => do return .str (← scene.describe run)
  | .newObject => make (.object .written)
termination_by structural e => e

/-- Evaluates expressions in order. -/
def evalAll : List Expr → Exec (List Value)
  | [] => return []
  | e :: es => do
    let v ← eval e
    return v :: (← evalAll es)
termination_by structural es => es

end

end Expr

/-- Runs bodies that may nest to a depth. -/
def Scene.run (scene : Scene) : (depth : Nat) → Runner
  | 0 => fun _ _ => throw .exhausted
  | depth + 1 => fun body args => body.eval (scene.run depth) scene args

end TrackedEntity
