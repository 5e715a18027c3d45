import TrackedEntity.Lock.Basic
import TrackedEntity.Table

/-!
# Threads that contend for a lock

A thread holds the lock any number of times, innermost hold first, and may have one request that
waits. `Contention.move?` is one atomic step of one thread: it requests the lock, tests again while
it waits, leaves its innermost hold, or gives its request up. Whether a block ends normally or by a
fault makes no difference to the lock.

A thread that waits is *told* when a hold ends in a way that concerns those who wait. It may test
again when it was told, and also without having been told; a test that fails uses the telling up.

`Contention.perform` runs such steps in a fixed order: one request or release, and then a test by
every thread that was told, in the order in which the threads first appeared.
-/

namespace TrackedEntity

/-- A request that waits. -/
structure Waiting where
  access : Access
  /-- Whether the thread was told to test again. -/
  told : Bool
deriving DecidableEq, Repr

/-- What one thread has to do with the lock. -/
structure Thread where
  /-- Its holds, innermost first. -/
  held : List Access
  waiting : Option Waiting
deriving DecidableEq, Repr

namespace Thread

/-- A thread that has nothing to do with the lock. -/
def idle : Thread := ⟨[], none⟩

/-- The thread, told to test again if it waits. -/
def tell (t : Thread) : Thread :=
  { t with waiting := t.waiting.map fun w => { w with told := true } }

end Thread

/-- A lock with the threads around it. -/
structure Contention where
  lock : Lock
  threads : Table String Thread
deriving Repr

/-- One atomic step of a thread. -/
inductive Move where
  | request (access : Access)
  | test
  | leave
  | withdraw
deriving DecidableEq, Repr

namespace Contention

/-- A free lock without threads. -/
def start : Contention := ⟨.free, []⟩

/-- The state of a thread. -/
def thread (c : Contention) (name : String) : Thread := (c.threads.get? name).getD .idle

/-- Replaces the state of a thread. -/
def setThread (c : Contention) (name : String) (t : Thread) : Contention :=
  { c with threads := c.threads.put name t }

/-- Tells all threads that wait. -/
def tellAll (c : Contention) : Contention :=
  { c with threads := c.threads.map fun (name, t) => (name, t.tell) }

/-- A thread's request, tested: it is granted or waits. -/
def testFor (c : Contention) (name : String) (t : Thread) (access : Access) : Contention :=
  if c.lock.admits access then
    { c with lock := c.lock.enter access }.setThread name ⟨access :: t.held, none⟩
  else c.setThread name { t with waiting := some ⟨access, false⟩ }

/-- The state after a step of a thread; `none` if the thread cannot do this step. -/
def move? (c : Contention) (name : String) (m : Move) : Option Contention :=
  let t := c.thread name
  match m, t.waiting, t.held with
  | .request access, none, _ =>
    some ({ c with lock := c.lock.arrive access }.testFor name t access)
  | .test, some w, _ => some (c.testFor name t w.access)
  | .withdraw, some w, _ =>
    some ({ c with lock := c.lock.withdraw w.access }.setThread name { t with waiting := none })
  | .leave, none, access :: held =>
    let lock := c.lock.leave access
    let c := { c with lock }.setThread name { t with held }
    -- the lock without the hold decides whether anybody has to know
    some (if lock.tells access then c.tellAll else c)
  | _, _, _ => none

/-! ### A fixed schedule -/

/-- Lets a thread test if it was told. -/
def testIfTold (c : Contention) (name : String) : Contention :=
  match (c.thread name).waiting with
  | some ⟨_, true⟩ => (c.move? name .test).getD c
  | _ => c

/-- Lets every thread that was told test. -/
def settle (c : Contention) : Contention := c.threads.keys.foldl testIfTold c

/-- What a thread asks for under the fixed schedule. -/
inductive Wish where
  | acquire (access : Access)
  | release
deriving DecidableEq, Repr

/-- What became of a wish. -/
inductive Outcome where
  | done
  /-- The request waits. -/
  | waiting
  /-- The thread waits already; the wish is ignored. -/
  | blocked
  /-- There is no hold to leave. -/
  | nothingHeld
deriving DecidableEq, Repr

namespace Wish

/-- The step that fulfils a wish. -/
def move : Wish → Move
  | .acquire access => .request access
  | .release => .leave

end Wish

/-- Fulfils a wish, and lets the others react. -/
def perform (c : Contention) (name : String) (wish : Wish) : Outcome × Contention :=
  if (c.thread name).waiting.isSome then (.blocked, c)
  else
    match c.move? name wish.move with
    | none => (.nothingHeld, c)
    | some c =>
      (if (c.thread name).waiting.isSome then .waiting else .done, c.settle)

end Contention

end TrackedEntity
