import TrackedEntity.Contract.ClassGraph
import TrackedEntity.Hook.Directory
import TrackedEntity.Text.Normal

/-!
# What a class declares

A class declares properties in two ways: as an attribute with a type, which is mutable and may have
a default, or as a property member, which is mutable when it can be set. `Catalog.declarations`
lists them, attributes first. Class variables are no properties; a name that is both an attribute
and a property member counts as the latter.

A class that declares an event in any form is no contract, and neither is one whose default could
be changed in place.

A type may be written as text. Such a text is a name: beside an attribute first of something in the
class body itself, then of a class, then of a type known from the start.

Faults come in a fixed order: event values among the members; types written as text that name
nothing; then the attributes one by one; then the property members one by one.
-/

namespace TrackedEntity

/-- The classes and the hook directories that analysis looks into. -/
structure Catalog where
  classes : ClassGraph
  hooks : HookCatalog

/-- A property as one class declares it. -/
structure Declaration where
  name : String
  /-- The type without annotations. -/
  type : DeclaredType
  mutable : Bool
  default : Value
  /-- The hook directory that the property is bound to. -/
  marker : Option String
  /-- The annotations of the type, without that marker. -/
  metadata : List Metadata

namespace Member

/-- The value of a member that serves as the default of an attribute of the same name. -/
def asDefault? : Member → Option Value
  | .event | .property _ => none
  | m => some m.stored

/-- Whether a member is an event. -/
def isEvent : Member → Bool
  | .event => true
  | _ => false

/-- Whether a member is a property. -/
def isProperty : Member → Bool
  | .property _ => true
  | _ => false

/-- Whether a member is a method. -/
def isMethod : Member → Bool
  | .method .. => true
  | _ => false

/-- The type that a member stands for where a type is expected: a text stays a text. -/
def asType : Member → DeclaredType
  | .value .none => .plain .absent
  | .value (.str s) => .forward s
  | m => .value m.stored

end Member

/-- Whether a name starts and ends with two underscores. -/
def isSpecialName (name : String) : Bool :=
  name.startsWith "__" && name.endsWith "__"

/-- The number of methods of a class, those with special names left out. -/
def ClassDef.methodCount (c : ClassDef) : Nat :=
  (c.members.filter fun m => m.2.isMethod && !isSpecialName m.1).length

/-- The types that are known by name: the builtin types that a `DeclaredType` can stand for, `None`,
`Any`, `ClassVar` and `Event`.  The other builtin names are left out: those of further types, such
as `frozenset`, `type`, `range` or the exceptions, and those of functions and constants, such as
`len`.  A text with one of these names resolves to nothing here. -/
def knownTypes : Table String DeclaredType :=
  [("int", .plain .int), ("str", .plain .str), ("bool", .plain .bool), ("float", .plain .float),
   ("complex", .plain .complex), ("bytes", .plain .bytes), ("object", .plain .object),
   ("list", .plain .list), ("dict", .plain .dict), ("tuple", .plain .tuple), ("set", .plain .set),
   ("bytearray", .plain .bytearray), ("Any", .plain .anything), ("None", .plain .absent),
   ("ClassVar", .classVar), ("Event", .event)]

namespace Catalog

variable (catalog : Catalog)

/-- The type of a name, found among the given names, among the classes, or known from the start.
Letters that stand for the same are not told apart in names. -/
def typeOfName (c : ClassDef) (names : Table String Member) (name : String) :
    Except Fault DeclaredType :=
  if name == "None" then .ok (.plain .absent)
  else
    let name := Text.compatibilityForm name
    match names.get? name with
    | some m => .ok m.asType
    | none =>
      if catalog.classes.names name then .ok (.contract name)
      else
        match knownTypes.get? name with
        | some t => .ok t
        | none => .error (.unresolvedName c.qualname name)

/-- The type behind one written as text; other types stand for themselves. -/
def resolveType (c : ClassDef) (names : Table String Member) :
    DeclaredType → Except Fault DeclaredType
  | .forward name => catalog.typeOfName c names name
  | t => .ok t

/-- The property that an attribute declares, if it declares one. -/
def declareAttribute (c : ClassDef) (name : String) (type : DeclaredType) :
    Except Fault (Option Declaration) :=
  if type.isClassVar then .ok none
  else if type.isEvent then .error (.eventMember c.qualname name)
  else
    let member := c.members.get? name
    if member.any Member.isProperty then .ok none
    else do
      let (base, marker, metadata) := type.split
      let zero ← base.zeroValue catalog.hooks.unhashable?
      let default := (member.bind Member.asDefault?).getD zero
      if default.hasUnhashableType then
        throw (.mutableDefault default.typeName name c.qualname)
      return some { name, type := base, mutable := true, default, marker, metadata }

/-- The property that a property member declares. Without a getter nothing is known of its type. -/
def declareProperty (c : ClassDef) (name : String) (p : PropertyMember) :
    Except Fault Declaration := do
  let returns ←
    match p.getter.bind PropertyGetter.returns with
    | none => pure (.plain .anything)
    | some t => catalog.resolveType c [] t
  if returns.isEvent then throw (.eventMember c.qualname name)
  let (base, annotated, metadata) := returns.split
  let default ← base.zeroValue catalog.hooks.unhashable?
  let marker := (p.getter.bind PropertyGetter.marker).or annotated
  return { name, type := base, mutable := p.settable, default, marker, metadata }

/-- The property that a member declares, if it declares one. -/
def declareMember (c : ClassDef) (name : String) : Member → Except Fault (Option Declaration)
  | .property p => (catalog.declareProperty c name p).map some
  | _ => .ok none

/-- The properties that a class declares itself, in order. -/
def declarations (c : ClassDef) : Except Fault (List Declaration) := do
  if let some (name, _) := c.members.find? (·.2.isEvent) then
    throw (.eventMember c.qualname name)
  let attributes ← c.attributes.mapM fun (name, t) => do
    return (name, ← catalog.resolveType c c.names t)
  let plain ← attributes.mapM fun (name, t) => catalog.declareAttribute c name t
  let computed ← c.members.mapM fun (name, m) => catalog.declareMember c name m
  return plain.filterMap id ++ computed.filterMap id

end Catalog

end TrackedEntity
