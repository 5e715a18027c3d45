import TrackedEntity.Value.Basic

/-!
# Truth, type names and keys

Three questions that can be asked of any value: whether it counts as true, what its type is
called, and whether it can be a key. Keys are values that cannot change; a tuple is a key when its
elements are, and the report of a value that is none names the type of the first part at fault.
-/

namespace TrackedEntity.Value

/-- The number that a value is, as real and imaginary part. -/
def number? : Value → Option (Exact × Exact)
  | .bool b => some (.ofInt (if b then 1 else 0), .ofInt 0)
  | .int n => some (.ofInt n, .ofInt 0)
  | .float _ x => some (x.exact, .ofInt 0)
  | .complex _ re im => some (re.exact, im.exact)
  | _ => Option.none

/-- Whether a value counts as true: all do but the absence of a value, zeros and empty
collections. A channel is taken to have handlers; whoever knows the channel asks it instead. -/
def truthy : Value → Bool
  | .none => false
  | .bool b => b
  | .int n => n != 0
  | .str s => s != ""
  | .bytes data | .bytearray _ data => !data.isEmpty
  | .float _ x => !x.exact.isZero
  | .complex _ re im => !(re.exact.isZero && im.exact.isZero)
  | .list _ items | .tuple _ items | .set _ items | .frozenset _ items => !items.isEmpty
  | .dict _ entries => !entries.isEmpty
  | .point .. | .sentinel .. | .comparer .. | .function .. | .method .. | .object ..
  | .entity _ | .channel => true

/-- The name of a value's type in reports. -/
def typeName : Value → String
  | .none => "NoneType"
  | .bool _ => "bool"
  | .int _ => "int"
  | .str _ => "str"
  | .bytes _ => "bytes"
  | .float .. => "float"
  | .complex .. => "complex"
  | .bytearray .. => "bytearray"
  | .list .. => "list"
  | .tuple .. => "tuple"
  | .set .. => "set"
  | .frozenset .. => "frozenset"
  | .dict .. => "dict"
  | .point .. => "Point"
  | .sentinel .. => "Opaque"
  | .comparer .. => "Cmp"
  | .function .. => "function"
  | .method .. => "method"
  | .object .. => "object"
  | .entity className => className
  | .channel => "PropertyChangedChannel"

/-- Whether an object can be given attributes beside those of its type. -/
def takesAttributes : Value → Bool
  | .point .. | .sentinel .. | .comparer .. | .function .. | .object .. | .entity _ => true
  | _ => false

/-- Whether objects of the value's type can be changed in place or define their own equality, so
that none of them is a key. -/
def hasUnhashableType : Value → Bool
  | .list .. | .dict .. | .set .. | .bytearray .. | .point .. | .comparer .. => true
  | _ => false

mutual

/-- The type of the first part of a value that keeps it from being a key. -/
def unhashablePart? : Value → Option String
  | .tuple _ items => firstUnhashable? items
  | v => if v.hasUnhashableType then some v.typeName else Option.none
termination_by structural v => v

/-- The type of the first unhashable part of several values, in order. -/
def firstUnhashable? : List Value → Option String
  | [] => Option.none
  | v :: vs => (unhashablePart? v).or (firstUnhashable? vs)
termination_by structural vs => vs

end

/-- Refuses a value that cannot be a key. -/
def requireHashable (v : Value) : Except Fault Unit :=
  match v.unhashablePart? with
  | some typeName => .error (.unhashable typeName)
  | Option.none => .ok ()

end TrackedEntity.Value
