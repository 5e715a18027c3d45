import TrackedEntity.Hook.Directory

/-!
# Resolving the hooks of a property

`HookDirectory.resolve` finds the hooks of one property in a directory and checks, once and for
all, that they can be called as entities will call them: the getter with the entity, or with the
entity and the current value, the setter with the entity and the new value. A getter that takes
two arguments gets the current value. Setters of read-only properties are not looked at.
-/

namespace TrackedEntity

/-- The hooks of one property. -/
structure Extension where
  /-- The name of the directory. -/
  source : String
  getter : Hook
  /-- Whether the getter gets the current value as second argument. -/
  passesCurrent : Bool
  setter : Option Hook

namespace HookMember

/-- The hook behind an attribute, if it can be called and inspected, with no keyword-only parameter
left open. -/
def inspect (m : HookMember) (label : String) : Except Fault Hook :=
  match m with
  | .value _ => .error (.hookNotCallable label)
  | .uninspectable reason => .error (.hookUninspectable label reason)
  | .callable hook =>
    match hook.signature.neededKeyword? with
    | some p => .error (.hookNeedsKeyword label p.name)
    | none => .ok hook

end HookMember

/-- Whether the declared result of a setter is a truth value: it may be absent, the type, or the
type's name as text. -/
def Hook.returnsTruth (hook : Hook) : Bool :=
  match hook.returns with
  | none => true
  | some (.plain .bool) => true
  | some (.forward name) => name == "bool"
  | _ => false

namespace HookDirectory

/-- The checks of a getter; the answer tells whether it gets the current value. -/
def checkGetter (label : String) (m : HookMember) : Except Fault (Hook × Bool) := do
  let hook ← m.inspect label
  if hook.signature.admits 2 then return (hook, true)
  else if hook.signature.admits 1 then return (hook, false)
  else throw (.getterArity label)

/-- The checks of a setter. -/
def checkSetter (label : String) (m : HookMember) : Except Fault Hook := do
  let hook ← m.inspect label
  if !hook.signature.admits 2 then throw (.setterArity label)
  if !hook.returnsTruth then throw (.setterResult label)
  return hook

/-- The hooks of a property. -/
def resolve (d : HookDirectory) (property : String) (settable : Bool) : Except Fault Extension := do
  let some getter := d.member? ("get_" ++ property)
    | throw (.hookMissing property d.source)
  let (getter, passesCurrent) ← checkGetter (d.source ++ ".get_" ++ property) getter
  -- where nothing can be assigned, a setter may be there and be anything
  let setter? := if settable then d.member? ("set_" ++ property) else none
  let setter ← setter?.mapM (checkSetter (d.source ++ ".set_" ++ property))
  return { source := d.source, getter, passesCurrent, setter }

end HookDirectory

end TrackedEntity
