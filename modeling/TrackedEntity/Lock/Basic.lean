/-!
# A lock for many readers or one writer

Any number of readers hold the lock together; a writer holds it alone. Writers are preferred: a
reader waits not only while a writer is inside but also while one waits, so that a stream of
readers cannot starve the writers.

The lock itself is three numbers. Each operation below is one atomic change of them. Waiting is not
part of the lock: whoever is not admitted waits and tests again later.
-/

namespace TrackedEntity

/-- The two ways to hold the lock. -/
inductive Access where
  /-- Together with other readers. -/
  | shared
  /-- Alone. -/
  | exclusive
deriving DecidableEq, Repr

/-- The state of the lock. -/
structure Lock where
  /-- The number of shared holds. -/
  readers : Int
  /-- Whether there is an exclusive hold. -/
  writing : Bool
  /-- The number of writers that wait. -/
  waitingWriters : Int
deriving DecidableEq, Repr

namespace Lock

/-- A lock that nobody holds or waits for. -/
def free : Lock := ⟨0, false, 0⟩

/-- Whether a hold may begin now. -/
def admits (l : Lock) : Access → Bool
  | .shared => !l.writing && l.waitingWriters == 0
  | .exclusive => !l.writing && l.readers == 0

/-- The start of a request: writers count as waiting from the start. -/
def arrive (l : Lock) : Access → Lock
  | .shared => l
  | .exclusive => { l with waitingWriters := l.waitingWriters + 1 }

/-- The end of a request that is given up. -/
def withdraw (l : Lock) : Access → Lock
  | .shared => l
  | .exclusive => { l with waitingWriters := l.waitingWriters - 1 }

/-- The end of a request that is granted, and the beginning of the hold. -/
def enter (l : Lock) : Access → Lock
  | .shared => { l with readers := l.readers + 1 }
  | .exclusive => { l.withdraw .exclusive with writing := true }

/-- The end of a hold. -/
def leave (l : Lock) : Access → Lock
  | .shared => { l with readers := l.readers - 1 }
  | .exclusive => { l with writing := false }

/-- Whether those who wait are told after a hold has ended: always after an exclusive one, and after
the last shared one. -/
def tells (l : Lock) : Access → Bool
  | .shared => l.readers == 0
  | .exclusive => true

end Lock

end TrackedEntity
