import TrackedEntity.Table
import TrackedEntity.Value.Equality

/-!
# Making objects

`Value.make` evaluates a value as it stands in the text of a program: every written object becomes
an object of its own, with a serial number that no other object has, and every reference to an
object made before stays that object. The elements of a set are made in order and those equal to
an earlier one are dropped; of entries of a mapping with equal keys the first keeps its key and its
place and the last gives the value.

Making fails when an element of a set or a key of a mapping is nothing that can be a key. The
elements of a set are all made before the first of them is looked at; an entry of a mapping is
made and entered before the next one.
-/

namespace TrackedEntity.Value

/-- Computations that make objects; the state is the next serial number. -/
abbrev Making := ExceptT Fault (StateM Nat)

namespace Making

/-- The result of a computation that makes nothing. -/
def ofExcept : Except Fault α → Making α
  | .ok a => pure a
  | .error f => throw f

end Making

/-- The next serial number. -/
def newIdentity : Making Identity := modifyGet fun next => (.made next, next + 1)

/-- The identity of an object: a written one is made now. -/
def makeIdentity : Identity → Making Identity
  | .written => newIdentity
  | .made serial => pure (.made serial)

/-- The elements without those that equal an earlier one. -/
def distinctItems (items : List Value) : List Value :=
  items.foldl (fun kept v => if kept.any (sameKey v) then kept else kept ++ [v]) []

/-- The elements of a set, each of which must be able to be a key. -/
def setItems (items : List Value) : Making (List Value) := do
  Making.ofExcept (items.forM requireHashable)
  return distinctItems items

/-- Writes one entry of a mapping. -/
def putEntry : List (Value × Value) → Value → Value → List (Value × Value)
  | [], k, v => [(k, v)]
  | (k', v') :: rest, k, v =>
    if sameKey k k' then (k', v) :: rest else (k', v') :: putEntry rest k v

/-- The entries of a mapping after writing them one after another. -/
def distinctEntries (entries : List (Value × Value)) : List (Value × Value) :=
  entries.foldl (fun kept e => putEntry kept e.1 e.2) []

/-- Writes one entry of a mapping unless its key has one already. -/
def putNewEntry (entries : List (Value × Value)) (k v : Value) : List (Value × Value) :=
  if entries.any fun e => sameKey k e.1 then entries else entries ++ [(k, v)]

mutual

/-- The object that a value stands for. -/
def make : Value → Making Value
  | .float id x => do return .float (← makeIdentity id) x
  | .complex id re im => do return .complex (← makeIdentity id) re im
  | .bytearray id data => do return .bytearray (← makeIdentity id) data
  | .sentinel id tag => do return .sentinel (← makeIdentity id) tag
  | .function id name => do return .function (← makeIdentity id) name
  | .method id name => do return .method (← makeIdentity id) name
  | .object id => do return .object (← makeIdentity id)
  | .list .written items => do return .list (← newIdentity) (← makeItems items)
  | .tuple .written items => do return .tuple (← newIdentity) (← makeItems items)
  | .set .written items => do return .set (← newIdentity) (← setItems (← makeItems items))
  | .frozenset .written items => do
    return .frozenset (← newIdentity) (← setItems (← makeItems items))
  | .dict .written entries => do
    return .dict (← newIdentity) (distinctEntries (← makeEntries entries))
  | .point .written tag x y => do return .point (← newIdentity) tag (← make x) (← make y)
  | .comparer .written tag (.answers result) => do
    return .comparer (← newIdentity) tag (.answers (← make result))
  | .comparer .written tag (.raises kind text) => do
    return .comparer (← newIdentity) tag (.raises kind text)
  | .comparer .written tag .undecided => do return .comparer (← newIdentity) tag .undecided
  | .comparer .written tag .abstains => do return .comparer (← newIdentity) tag .abstains
  | v => pure v
termination_by structural v => v

/-- The objects that several values stand for, made in order. -/
def makeItems : List Value → Making (List Value)
  | [] => pure []
  | v :: vs => do return (← make v) :: (← makeItems vs)
termination_by structural vs => vs

/-- The entries that several pairs stand for, made in order. -/
def makeEntries : List (Value × Value) → Making (List (Value × Value))
  | [] => pure []
  | (k, v) :: es => do
    let k ← make k
    let v ← make v
    Making.ofExcept k.requireHashable
    return (k, v) :: (← makeEntries es)
termination_by structural es => es

end

end TrackedEntity.Value
