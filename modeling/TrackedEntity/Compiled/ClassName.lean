import TrackedEntity.Text.UpperCase

/-!
# Names of compiled classes

A compiled class is named after its contract. When the mark of an interface is dropped, a leading
`I` goes if an upper-case letter follows it: `IUser` becomes `User`, `Item` stays `Item`.
-/

namespace TrackedEntity

/-- The name of the class compiled from a contract of the given name. -/
def compiledClassName (contract : String) (stripInterfaceMark : Bool) : String :=
  match contract.toList with
  | 'I' :: c :: rest =>
    if stripInterfaceMark && Text.isUpperCase c then String.ofList (c :: rest) else contract
  | _ => contract

end TrackedEntity
