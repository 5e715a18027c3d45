import TrackedEntity.Value.Basic
import TrackedEntity.Number.Text
import TrackedEntity.Text.Quoted

/-!
# The description of a value

`Value.describe` is the text of a value in reports and in the descriptions of entities: texts are
quoted, sequences stand in brackets with a comma after a lone element of a tuple, empty sets are
written as calls because empty braces are an empty mapping. A channel among the values is the one
of the entity at hand; `describeWith` is given its text.
-/

namespace TrackedEntity.Value

mutual

/-- The text of a value, with the given text for the channel. -/
def describeWith (channel : String) : Value → String
  | .none => "None"
  | .bool b => if b then "True" else "False"
  | .int n => toString n
  | .str s => Text.quoted s
  | .bytes data => Text.quotedBytes data
  | .float _ x => x.text .alone
  | .complex _ re im => complexText re im
  | .bytearray _ data => "bytearray(" ++ Text.quotedBuffer data ++ ")"
  | .list _ items => "[" ++ ", ".intercalate (describeAll channel items) ++ "]"
  | .tuple _ [item] => "(" ++ describeWith channel item ++ ",)"
  | .tuple _ items => "(" ++ ", ".intercalate (describeAll channel items) ++ ")"
  | .set _ [] => "set()"
  | .set _ items => "\x7b" ++ ", ".intercalate (describeAll channel items) ++ "\x7d"
  | .frozenset _ [] => "frozenset()"
  | .frozenset _ items =>
    "frozenset(\x7b" ++ ", ".intercalate (describeAll channel items) ++ "\x7d)"
  | .dict _ entries => "\x7b" ++ ", ".intercalate (describeEntries channel entries) ++ "\x7d"
  | .point _ _ x y => "Point(" ++ describeWith channel x ++ ", " ++ describeWith channel y ++ ")"
  | .sentinel _ tag => "Opaque(" ++ Text.quoted tag ++ ")"
  | .comparer _ tag _ => "Cmp(" ++ Text.quoted tag ++ ")"
  | .function _ name => "<function " ++ name ++ ">"
  | .method _ name => "<bound method " ++ name ++ ">"
  | .object _ => "<object>"
  | .entity className => "<" ++ className ++ ">"
  | .channel => channel
termination_by structural v => v

/-- The texts of several values. -/
def describeAll (channel : String) : List Value → List String
  | [] => []
  | v :: vs => describeWith channel v :: describeAll channel vs
termination_by structural vs => vs

/-- The texts of entries. -/
def describeEntries (channel : String) : List (Value × Value) → List String
  | [] => []
  | (k, v) :: es =>
    (describeWith channel k ++ ": " ++ describeWith channel v) :: describeEntries channel es
termination_by structural es => es

end

/-- The text of a value away from any entity. -/
def describe (v : Value) : String := describeWith "PropertyChangedChannel" v

end TrackedEntity.Value
