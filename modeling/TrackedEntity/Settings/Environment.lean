import TrackedEntity.Fault
import TrackedEntity.Table

/-!
# The process environment

An environment has variables in the order in which they were last set. Setting a variable again
moves it to the end. A name or value with a null character, a name with an equals sign, and an empty
name are refused.
-/

namespace TrackedEntity

/-- The variables of a process, in the order in which they were last set. -/
abbrev Environment := Table String String

namespace Environment

/-- Sets a variable. -/
def define (e : Environment) (name value : String) : Except Fault Environment :=
  if name.toList.contains '\x00' || value.toList.contains '\x00' then .error .nullInEnvironment
  else if name.toList.contains '=' then .error .illegalVariableName
  else if name.isEmpty then .error .emptyVariableName
  else .ok (e.erase name ++ [(name, value)])

/-- Sets a variable, or removes it when there is no value. -/
def change (e : Environment) (name : String) : Option String → Except Fault Environment
  | some value => e.define name value
  | none => .ok (e.erase name)

/-- The environment with the given variables only, set one after another. -/
def ofPairs (pairs : List (String × String)) : Except Fault Environment :=
  pairs.foldlM (fun e p => define e p.1 p.2) []

end Environment

end TrackedEntity
