import TrackedEntity.Table
import TrackedEntity.Contract.DeclaredType
import TrackedEntity.Hook.Signature
import TrackedEntity.Program.Expr
import TrackedEntity.Value.Making

/-!
# Hook directories

A hook computes a property's value (`get_name`) or decides about an assignment (`set_name`). Hooks
are found by name in a directory: a class, an instance, a module, or any other value, which then
has no hooks at all.
-/

namespace TrackedEntity

/-- A hook that can be called and whose parameters are known. -/
structure Hook where
  signature : Signature
  /-- The declared type of the result. -/
  returns : Option DeclaredType
  body : Expr

/-- An attribute of a hook directory. -/
inductive HookMember where
  /-- A value that cannot be called; the absence of a value counts as a missing attribute. -/
  | value (v : Value)
  /-- Something that can be called but does not tell its parameters. -/
  | uninspectable (reason : String)
  | callable (hook : Hook)

/-- The attribute that one as written in a program stands for: its value is made now. -/
def HookMember.make : HookMember → Value.Making HookMember
  | .value v => do return .value (← v.make)
  | m => return m

/-- A directory of hooks. -/
structure HookDirectory where
  /-- The name of the directory in reports. -/
  source : String
  members : Table String HookMember
  /-- The type of the first part of the directory that keeps it from being a key. -/
  unhashable? : Option String
  /-- The type of a directory that is a plain value and takes no attributes. -/
  closed? : Option String

namespace HookDirectory

/-- A directory that is a plain value: it has no hooks, and its type stands for its name. -/
def ofValue (v : Value) : HookDirectory :=
  ⟨v.typeName, [], v.unhashablePart?, if v.takesAttributes then none else some v.typeName⟩

/-- An attribute of the directory; an attribute without value is missing. -/
def member? (d : HookDirectory) (name : String) : Option HookMember :=
  match d.members.get? name with
  | some (.value .none) => none
  | other => other

end HookDirectory

/-- The hook directories that contracts refer to, by name. -/
abbrev HookCatalog := Table String HookDirectory

namespace HookCatalog

/-- The directory of a name; an unknown name has no hooks. -/
def find (hooks : HookCatalog) (name : String) : HookDirectory :=
  (Table.get? hooks name).getD ⟨name, [], none, none⟩

/-- What keeps a directory from being a key. -/
def unhashable? (hooks : HookCatalog) (name : String) : Option String :=
  (hooks.find name).unhashable?

/-- Replaces an attribute of a directory. -/
def patch (hooks : HookCatalog) (directory name : String) (m : HookMember) :
    Except Fault HookCatalog :=
  let d := hooks.find directory
  match d.closed? with
  | some typeName => .error (.noAttribute typeName name)
  | none => .ok (Table.put hooks directory { d with members := d.members.put name m })

end HookCatalog

end TrackedEntity
