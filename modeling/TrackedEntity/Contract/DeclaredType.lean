import TrackedEntity.Value.Equality

/-!
# Declared types

The type that a contract writes beside a property. Analysis looks at little of it: whether it
declares an event or a class variable, whether it is annotated, whether it is one of the primitive
types, and what the zero value of the type is. Two of these questions look the type up in a table,
so they fail for a type that cannot be a key, such as a list of literals that are lists.

The builders `annotate`, `apply` and `ofValues` bring types to their normal form: annotations of an
annotated type join its own, an optional of an optional is one optional, the absence of a value
stands for its type, and literals that can be keys occur once.
-/

namespace TrackedEntity

/-- A type without parts. -/
inductive PlainType where
  | bool
  | int
  | float
  | complex
  | str
  | bytes
  /-- The type of the absence of a value. -/
  | absence
  /-- The absence of a value itself, written where a type is expected. -/
  | absent
  | object
  | anything
  | list
  | dict
  | tuple
  | set
  | bytearray
  | point
  | sentinel
  /-- A type variable. -/
  | variable
deriving DecidableEq, Repr

/-- What a type can be applied to. -/
inductive TypeForm where
  | list
  | dict
  | tuple
  | set
  | optional
  | event
  | classVar
deriving DecidableEq, Repr

/-- One item of the metadata of an annotated type. -/
inductive Metadata where
  | value (v : Value)
  /-- A marker that binds the property to a hook directory. -/
  | marker (directory : String)
deriving DecidableEq

/-- A type as a contract declares it. -/
inductive DeclaredType where
  | plain (t : PlainType)
  | event
  | classVar
  | applied (form : TypeForm) (args : List DeclaredType)
  | annotated (base : DeclaredType) (metadata : List Metadata)
  | literal (values : List Value)
  /-- A class of the input, by name. -/
  | contract (name : String)
  /-- A type written as text. -/
  | forward (name : String)
  /-- A value that is no type but stands in the place of one. -/
  | value (v : Value)

instance : Inhabited DeclaredType := ⟨.plain .anything⟩

namespace DeclaredType

/-! ### Building types -/

/-- The type that an argument stands for in a form that takes types only. -/
def orAbsence : DeclaredType → DeclaredType
  | .plain .absent => .plain .absence
  | t => t

/-- A type with metadata; the metadata of a type that has some already comes first. Annotating with
nothing is refused. -/
def annotate (base : DeclaredType) (metadata : List Metadata) : Except Fault DeclaredType :=
  if metadata.isEmpty then .error .noMetadata
  else
    match base.orAbsence with
    | .annotated inner own => .ok (.annotated inner (own ++ metadata))
    | t => .ok (.annotated t metadata)

/-- A form applied to arguments. -/
def apply (form : TypeForm) (args : List DeclaredType) : DeclaredType :=
  match form with
  | .optional =>
    match args.map orAbsence with
    | [.plain .absence] => .plain .absence
    | [.applied .optional inner] => .applied .optional inner
    | args => .applied .optional args
  | .event | .classVar => .applied form (args.map orAbsence)
  | _ => .applied form args

/-- Whether two literals are one: they are the same key and of the same type. -/
def sameLiteral (a b : Value) : Bool := a.typeName == b.typeName && a.sameKey b

/-- The type of some literals. Repetitions are dropped if all of them can be keys. -/
def ofValues (values : List Value) : DeclaredType :=
  if (Value.firstUnhashable? values).isSome then .literal values
  else .literal
    (values.foldl (fun kept v => if kept.any (sameLiteral v) then kept else kept ++ [v]) [])

/-! ### Looking at types -/

/-- Whether a type without annotations is an event. -/
def isBareEvent : DeclaredType → Bool
  | .event => true
  | .applied .event _ => true
  | _ => false

/-- Whether a type declares an event, annotated or not. -/
def isEvent : DeclaredType → Bool
  | .annotated base _ => base.isBareEvent
  | t => t.isBareEvent

/-- Whether the outermost form of a type is that of a class variable. -/
def isClassVar : DeclaredType → Bool
  | .classVar => true
  | .applied .classVar _ => true
  | _ => false

/-- The first marker among metadata, if any, and the rest in order. -/
def splitMarker : List Metadata → Option String × List Metadata
  | [] => (none, [])
  | .marker directory :: rest => (some directory, rest)
  | item :: rest =>
    let (marker, others) := splitMarker rest
    (marker, item :: others)

/-- A type without its annotations, its marker, and its other metadata. -/
def split : DeclaredType → DeclaredType × Option String × List Metadata
  | .annotated base metadata => (base, splitMarker metadata)
  | t => (t, none, [])

/-! ### Types as keys -/

/-- The type of the first item of metadata that cannot be a key; the parameter gives that of a
marker's directory. -/
def unhashableMetadata? (directory : String → Option String) : List Metadata → Option String
  | [] => none
  | .value v :: rest => v.unhashablePart?.or (unhashableMetadata? directory rest)
  | .marker d :: rest => (directory d).or (unhashableMetadata? directory rest)

mutual

/-- The type of the first part of a declared type that keeps it from being a key. -/
def unhashablePart? (directory : String → Option String) : DeclaredType → Option String
  | .applied _ args => firstUnhashable? directory args
  | .annotated base metadata =>
    (unhashablePart? directory base).or (unhashableMetadata? directory metadata)
  | .literal values => Value.firstUnhashable? values
  | .value v => v.unhashablePart?
  | _ => none
termination_by structural t => t

/-- The type of the first unhashable part of several declared types, in order. -/
def firstUnhashable? (directory : String → Option String) : List DeclaredType → Option String
  | [] => none
  | t :: ts => (unhashablePart? directory t).or (firstUnhashable? directory ts)
termination_by structural ts => ts

end

/-- Refuses a type that cannot be a key. -/
def requireHashable (directory : String → Option String) (t : DeclaredType) : Except Fault Unit :=
  match t.unhashablePart? directory with
  | some typeName => .error (.unhashable typeName)
  | none => .ok ()

/-! ### Zero values and primitive types -/

/-- The zero value of a type: zero for numbers and truth values, the absence of a value for every
other type. -/
def zero : DeclaredType → Value
  | .plain .bool => .bool false
  | .plain .int => .int 0
  | .plain .float => .float (.made 0) Binary64.zero
  | .plain .complex => .complex (.made 0) Binary64.zero Binary64.zero
  | _ => .none

/-- Whether the values of a type are compared by their own equality alone. -/
def isPrimitive : DeclaredType → Bool
  | .plain .bool | .plain .int | .plain .float | .plain .complex | .plain .str | .plain .bytes
  | .plain .absence => true
  | _ => false

/-- The zero value of a type, looked up by the type. -/
def zeroValue (directory : String → Option String) (t : DeclaredType) : Except Fault Value := do
  t.requireHashable directory
  return t.zero

end DeclaredType

end TrackedEntity
