import TrackedEntity.Number.Rounding

/-!
# Settings of the compiler

Two settings steer compilation: how many methods a contract may have per property, and whether the
mark of an interface is dropped from the names of compiled classes.
-/

namespace TrackedEntity

/-- The number of methods allowed per property, zero or more. -/
structure MethodRatio where
  value : Binary64
  notNegative : Exact.atMost (Exact.ofInt 0) value.exact = true

namespace MethodRatio

/-- The ratio that holds without further settings. -/
def two : MethodRatio := ⟨⟨0x4000000000000000⟩, by decide +kernel⟩

/-- Whether a number of methods exceeds the ratio for a number of properties. The product is a
rounded floating point number; infinitely many methods for no property are no limit at all. -/
def exceededBy (ratio : MethodRatio) (methods properties : Nat) : Bool :=
  (ratio.value.timesNat properties).less (.ofInt methods)

end MethodRatio

/-- The settings of the compiler. -/
structure Settings where
  /-- The guard against methods; `none` switches it off. -/
  methodRatio : Option MethodRatio
  /-- Whether a leading `I` is dropped from class names. -/
  stripInterfaceMark : Bool

namespace Settings

/-- The settings that hold when nothing else is said. -/
def default : Settings := ⟨some .two, true⟩

/-- Whether the guard rejects a number of methods for a number of properties. -/
def guardRejects (s : Settings) (methods properties : Nat) : Bool :=
  match s.methodRatio with
  | none => false
  | some ratio => ratio.exceededBy methods properties

end Settings

end TrackedEntity
