import TrackedEntity.Table
import TrackedEntity.Contract.DeclaredType
import TrackedEntity.Contract.Lineage
import TrackedEntity.Contract.Walk

/-!
# Classes

A contract is a class. Its body has two tables in order of first writing: the attributes, which are
names with declared types, and the members, which are names with values; a name can be in both.
A few members with special names say something about the class itself: its qualified name, its
module, its documentation, and the annotations of its entities. Classes have bases, and the bases
make a graph.

Some classes are known from the start. `object`, `protocol` and `generic` stand at the top of every
hierarchy and are never visited. `notifyPropertyChanged` marks contracts whose entities notify.
`dataEntity` is the surface that all entities share, `entityBase` the class they all derive from.

A class is *compiled* when it carries the compiled type of a contract; everything that derives from
a compiled class counts as compiled too.
-/

namespace TrackedEntity

/-- A class, known from the start or declared by the input. -/
inductive ClassRef where
  | object
  | protocol
  | generic
  | abstract
  | notifyPropertyChanged
  | dataEntity
  | entityBase
  | declared (index : Nat)
deriving DecidableEq, Repr

/-- The getter of a property member. -/
structure PropertyGetter where
  /-- The declared type of the result. -/
  returns : Option DeclaredType
  /-- The hook directory that a marker on the getter names. -/
  marker : Option String

/-- A property member. -/
structure PropertyMember where
  getter : Option PropertyGetter
  settable : Bool

/-- How a method takes part in a call. -/
inductive MethodForm where
  /-- A function, which is bound to the entity that it is read from. -/
  | plain
  /-- A function that is never bound. -/
  | static
  /-- A function that is bound to the class. -/
  | ofClass
deriving DecidableEq, Repr

/-- A member of a class body. -/
inductive Member where
  | value (v : Value)
  | event
  | method (form : MethodForm) (id : Identity) (name : String)
  /-- Anything else that can be called. -/
  | callable (v : Value)
  | property (p : PropertyMember)

namespace Member

/-- What the class body holds for a member. -/
def stored : Member → Value
  | .value v | .callable v => v
  | .method .plain id name => .function id name
  | .method .static id _ | .method .ofClass id _ => .object id
  | .event | .property _ => .object .written

/-- The type name of what the class body holds for a member. -/
def storedTypeName : Member → String
  | .method .static _ _ => "staticmethod"
  | .method .ofClass _ _ => "classmethod"
  | .property _ => "property"
  | m => m.stored.typeName

/-- What reading a member through its class gives, if it is no property. -/
def fromClass? : Member → Option Value
  | .value v | .callable v => some v
  | .method .plain id name | .method .static id name => some (.function id name)
  | .method .ofClass _ name => some (.method .written name)
  | .event | .property _ => none

/-- What reading a member through an entity gives, if it is no property. -/
def fromEntity? : Member → Option Value
  | .method .plain _ name => some (.method .written name)
  | m => m.fromClass?

end Member

/-- A class body with its names and bases. -/
structure ClassDef where
  name : String
  qualname : String
  module : String
  bases : List ClassRef
  attributes : Table String DeclaredType
  members : Table String Member

namespace ClassDef

/-- A class without a body. -/
def empty (name module : String) (bases : List ClassRef) : ClassDef :=
  ⟨name, name, module, bases, [], []⟩

/-! ### Members with special names -/

/-- The member under which a compiled class carries its compiled type. -/
def compiledMember : String := "__entity_type__"

/-- The member that gives the qualified name. -/
def qualnameMember : String := "__qualname__"

/-- The member that gives the module. -/
def moduleMember : String := "__module__"

/-- The member that documents the class. -/
def docMember : String := "__doc__"

/-- The member with the annotations of the entity type as a whole. -/
def annotationsMember : String := "__entity_annotations__"

/-! ### Writing a class body -/

/-- Writes an attribute into the body. -/
def annotate (c : ClassDef) (name : String) (t : DeclaredType) : ClassDef :=
  { c with attributes := c.attributes.put name t }

/-- Writes attributes of one type whose names are numbered from zero. -/
def annotateNumbered (c : ClassDef) (stem : String) (count : Nat) (t : DeclaredType) : ClassDef :=
  (List.range count).foldl (fun c i => c.annotate (stem ++ toString i) t) c

/-- Writes a member into the body; the qualified name and the module are the class's own. -/
def assign (c : ClassDef) (name : String) (m : Member) : ClassDef :=
  match m with
  | .value (.str s) =>
    if name == qualnameMember then { c with qualname := s }
    else if name == moduleMember then { c with module := s }
    else { c with members := c.members.put name m }
  | _ => { c with members := c.members.put name m }

/-! ### Reading a class body -/

/-- Whether the class itself carries a compiled type. -/
def isCompiled (c : ClassDef) : Bool := Table.has c.members compiledMember

/-- The documentation of the class. -/
def doc (c : ClassDef) : Value := ((c.members.get? docMember).bind Member.fromClass?).getD .none

/-- The names that types written as text find in the class itself. -/
def names (c : ClassDef) : Table String Member :=
  c.members ++ [(moduleMember, .value (.str c.module)), (docMember, .value .none)]

/-- The annotations of the entity type that the class gives. -/
def entityAnnotations (c : ClassDef) : Except Fault (List (Value × Value)) :=
  match c.members.get? annotationsMember with
  | none => .ok []
  | some (.value (.dict _ entries)) => .ok entries
  | some m => .error (.noAttribute m.storedTypeName "items")

/-- The class compiled from a contract: it derives from the class of all entities and from the
contract, and carries its compiled type. -/
def compiled (className : String) (contract : ClassRef) : ClassDef :=
  { empty className "contracts" [.entityBase, contract] with
    members := [(compiledMember, .value .none)] }

end ClassDef

/-- The classes of an input, in order of definition. -/
structure ClassGraph where
  classes : List ClassDef

namespace ClassGraph

/-- The classes known from the start, each after its bases. -/
def known : List ClassRef :=
  [.object, .generic, .protocol, .abstract, .notifyPropertyChanged, .dataEntity, .entityBase]

/-- A class with documentation. -/
private def documented (c : ClassDef) (text : String) : ClassDef :=
  c.assign ClassDef.docMember (.value (.str text))

/-- One method of the surface that all entities share. -/
private def surfaceMethod (c : ClassDef) (name : String) : ClassDef :=
  c.assign name (.method .plain (.made 0) name)

/-- The definition of a class; a class that was never declared has an empty one. -/
def definition (g : ClassGraph) : ClassRef → ClassDef
  | .object =>
    documented (.empty "object" "builtins" [])
      ("The base class of the class hierarchy.\n\nWhen called, it accepts no arguments "
        ++ "and returns a new featureless\ninstance that has no instance attributes and cannot "
        ++ "be given any.\n")
  | .generic => .empty "Generic" "" [.object]
  | .protocol => .empty "Protocol" "" [.generic]
  | .abstract => .empty "ABC" "" [.object]
  | .notifyPropertyChanged =>
    documented (.empty "NotifyPropertyChanged" "entitykit.core.schema.models" [.protocol])
      ("Capability marker: entities of contracts inheriting this notify changes.\n\n"
        ++ "    Compiled entities expose ``property_changed``, a channel invoked with\n"
        ++ "    ``(entity, property_name)`` after every effective assignment.\n    ")
  | .dataEntity =>
    ["has_changes", "get_changes", "try_get", "try_set"].foldl surfaceMethod
      (documented (.empty "DataEntity" "entitykit.runtime.entity" [.protocol])
        "Change-tracking surface shared by all compiled entities.")
  | .entityBase => .empty "EntityBase" "entitykit.runtime.entity" [.object]
  | .declared i => g.classes.getD i (.empty "" "" [])

/-- The bases of a class, in order. -/
def bases (g : ClassGraph) (c : ClassRef) : List ClassRef := (g.definition c).bases

/-- All classes of the graph. -/
def refs (g : ClassGraph) : List ClassRef :=
  known ++ (List.range g.classes.length).map .declared

/-- The number of base edges. -/
def edges (g : ClassGraph) : Nat := (g.refs.flatMap g.bases).length

/-- The class and everything it derives from. -/
def ancestors (g : ClassGraph) (c : ClassRef) : List ClassRef :=
  Walk.walk g.bases (fun _ => false) g.edges c

/-- The lineages of all classes. -/
def lineages (g : ClassGraph) : Table ClassRef (List ClassRef) :=
  g.refs.foldl (fun found c =>
    found ++ [(c, Lineage.ofBases c (g.bases c) fun b => (Table.get? found b).getD [b])]) []

/-- What entities read from a class and its ancestors where no property has the name: of several
members with one name the first in the lineage of the class. -/
def constants (g : ClassGraph) (c : ClassRef) : Table String Value :=
  let lineage := (Table.get? g.lineages c).getD [c]
  let own : Table String Value :=
    [(ClassDef.docMember, (g.definition c).doc),
     (ClassDef.moduleMember, .str (g.definition c).module)]
  (lineage.flatMap fun a => (g.definition a).members).foldl
    (fun t (name, m) => ((Member.fromEntity? m).map (t.putNew name ·)).getD t) own

/-- Whether the class carries, or inherits, the compiled type of a contract. -/
def derivesFromCompiled (g : ClassGraph) (c : ClassRef) : Bool :=
  (g.ancestors c).any fun a => (g.definition a).isCompiled

/-- The classes that a walk over contracts never visits. -/
def isHidden : ClassRef → Bool
  | .object | .protocol | .generic => true
  | _ => false

/-- The bases that a walk over contracts follows: those of the notification marker are not. -/
def contractBases (g : ClassGraph) (c : ClassRef) : List ClassRef :=
  if c = .notifyPropertyChanged then [] else g.bases c

/-- The contract and its ancestors, breadth-first, each once. -/
def contracts (g : ClassGraph) (contract : ClassRef) : List ClassRef :=
  Walk.walk g.contractBases isHidden g.edges contract

/-- Whether a name is that of a declared class. Compiled classes are not known by name. -/
def names (g : ClassGraph) (name : String) : Bool :=
  g.classes.any fun c => c.name == name && !c.bases.contains .entityBase

end ClassGraph

end TrackedEntity
