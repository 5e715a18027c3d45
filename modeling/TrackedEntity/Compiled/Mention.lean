import TrackedEntity.Compiled.Basic
import TrackedEntity.Value.Making

/-!
# Mentioning contracts

A contract can be mentioned in three ways: as a class, as a value, which is no contract but may be
tried as one, and as the class that was compiled from a class. The last has to be compiled first;
every mention makes a class of its own.
-/

namespace TrackedEntity

/-- A way to mention a contract. -/
inductive Mention where
  | ofClass (ref : ClassRef)
  | ofValue (v : Value)
  /-- The class compiled from a class. -/
  | compiledFrom (ref : ClassRef)

namespace Catalog

/-- The catalog with one more class, and the reference to it. -/
def addClass (catalog : Catalog) (c : ClassDef) : ClassRef × Catalog :=
  (.declared catalog.classes.classes.length,
    { catalog with classes := ⟨catalog.classes.classes ++ [c]⟩ })

/-- Compiles a class and adds the compiled class. -/
def addCompiled (catalog : Catalog) (settings : Settings) (contract : ClassRef) :
    Except Fault (ClassRef × Catalog) := do
  let compiled ← catalog.compileClass settings contract
  return catalog.addClass (.compiled compiled.className contract)

/-- The contract that a mention stands for. Settings are needed only where something is compiled. -/
def resolveMention (catalog : Catalog) (settings : Except Fault Settings) :
    Mention → Value.Making (Contract × Catalog)
  | .ofClass ref => return (.ofClass ref, catalog)
  | .ofValue v => do return (.ofValue (← v.make), catalog)
  | .compiledFrom ref => do
    let (compiled, catalog) ← Value.Making.ofExcept do catalog.addCompiled (← settings) ref
    return (.ofClass compiled, catalog)

end Catalog

end TrackedEntity
