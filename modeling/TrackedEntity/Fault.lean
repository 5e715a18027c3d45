/-!
# What can go wrong

A `Fault` is a cause, with the names that its report needs. `Fault.kind` sorts the causes into the
few families that callers tell apart, and `Fault.message` words the report. Analysis and
compilation fail with the families `schema` and `configuration`; the others belong to single
operations on masks, values, entities, batches and settings.
-/

namespace TrackedEntity

/-- The families of faults that callers tell apart. -/
inductive FaultKind where
  | schema
  | configuration
  | unsupported
  | range
  | validation
  | value
  | type
  | attribute
  | index
  | overflow
  | memory
  | system
  | runtime
deriving DecidableEq, Repr

/-- The two settings. -/
inductive SettingName where
  | methodRatio
  | stripInterfaceMark
deriving DecidableEq, Repr

/-- The name under which a setting is given. -/
def SettingName.key : SettingName → String
  | .methodRatio => "method_ratio"
  | .stripInterfaceMark => "strip_interface_prefix"

/-- What is wrong with the value of a setting. -/
inductive SettingProblem where
  /-- Neither a number nor a text. -/
  | notANumber
  /-- A text that is no number. -/
  | unreadableNumber
  /-- Below zero, or not comparable with it. -/
  | belowZero
  /-- Neither a truth value nor a text or number that could stand for one. -/
  | notATruthValue
  /-- A text or number that stands for no truth value. -/
  | unreadableTruthValue
  /-- Settings are not assignable. -/
  | frozen
deriving DecidableEq, Repr

/-- The cause of a failed operation. -/
inductive Fault where
  /-- The thing given as a contract is not a class. -/
  | notAClass (described : String)
  /-- The contract is, or derives from, a compiled entity class. -/
  | alreadyCompiled (className : String)
  /-- A type written as text names nothing known. -/
  | unresolvedName (className name : String)
  /-- A contract declares an event. -/
  | eventMember (className member : String)
  /-- The default of a property could be changed in place. -/
  | mutableDefault (typeName property className : String)
  /-- The guard against classes with behaviour. -/
  | tooManyMethods (className : String) (methods properties : Nat)
  /-- A property name that entities need for themselves, or that starts with an underscore. -/
  | reservedName (property className : String)
  /-- The hook directory has no getter for the property. -/
  | hookMissing (property source : String)
  /-- A hook is there but cannot be called. -/
  | hookNotCallable (hook : String)
  /-- The parameters of a hook cannot be found out. -/
  | hookUninspectable (hook reason : String)
  /-- A hook has a keyword-only parameter without default. -/
  | hookNeedsKeyword (hook parameter : String)
  /-- A getter hook takes neither one nor two positional arguments. -/
  | getterArity (hook : String)
  /-- A setter hook does not take two positional arguments. -/
  | setterArity (hook : String)
  /-- A setter hook declares a result other than a truth value. -/
  | setterResult (hook : String)
  /-- A read-only property without getter hook was read. -/
  | unreadable (property owner : String)
  /-- A batch of fewer than one entity. -/
  | batchTooSmall (count : String)
  /-- A mask for a negative number of properties. -/
  | negativeMaskCount (count : Int)
  /-- A byte mask of negative size. -/
  | negativeSize
  /-- A negative ordinal of a scalar mask. -/
  | negativeShift
  /-- An ordinal outside a byte mask. -/
  | byteOutOfRange
  /-- A position that is no word. -/
  | positionTooLarge
  /-- A size that is no word. -/
  | sizeTooLarge
  /-- An ordinal that no scalar has room for. -/
  | tooManyDigits
  /-- A scalar or a sequence that no memory has room for. -/
  | outOfMemory
  /-- A position outside a sequence that was read. -/
  | slotOutOfRange
  /-- A position outside a sequence that was written. -/
  | slotAssignmentOutOfRange
  /-- A value that cannot be a key. -/
  | unhashable (typeName : String)
  /-- A handler that cannot be called. -/
  | handlerNotCallable (described : String)
  /-- An entity class that was not compiled from a contract. -/
  | notCompiled (className : String)
  /-- A whole number was needed. -/
  | notAnInteger (typeName : String)
  /-- Two values without an order between them. -/
  | incomparable (relation left right : String)
  /-- Two values that an operation cannot join. -/
  | unsupportedOperands (operation left right : String)
  /-- A text or sequence was to be continued by something of another type. -/
  | cannotContinue (sequence typeName : String)
  /-- Bytes were to be continued by something else. -/
  | cannotAppend (typeName bytes : String)
  /-- A whole number beyond all floating point numbers. -/
  | tooLargeForFloat
  /-- Something was called that cannot be. -/
  | notCallable (typeName : String)
  /-- The elements were asked of something that has none. -/
  | notIterable (typeName : String)
  /-- A variable of the environment with a null character in its name or value. -/
  | nullInEnvironment
  /-- A variable of the environment with an equals sign in its name. -/
  | illegalVariableName
  /-- A variable of the environment without a name. -/
  | emptyVariableName
  /-- A type was annotated with nothing. -/
  | noMetadata
  /-- A hook was called with arguments that it cannot take. -/
  | wrongArguments (given : Nat)
  /-- Assignment to a property that cannot be assigned. -/
  | noSetter (property className : String)
  /-- Deletion of a contract property. -/
  | notDeletable (property className : String)
  /-- Deletion of the channel attribute. -/
  | noDeleter (property className : String)
  /-- No attribute of that name. -/
  | noAttribute (className name : String)
  /-- An attribute that belongs to the class cannot be changed on an entity. -/
  | fixedAttribute (className name : String)
  /-- A fault that a hook, a handler or a value's own equality raises. -/
  | raised (kind : FaultKind) (text : String)
  /-- Settings that cannot be read. -/
  | invalidSettings (problems : List (SettingName × SettingProblem))
  /-- Assignment to a setting. -/
  | frozenSetting (name : String)
deriving DecidableEq, Repr

namespace Fault

/-- The family that a cause belongs to. -/
def kind : Fault → FaultKind
  | .notAClass .. | .alreadyCompiled .. | .unresolvedName .. | .eventMember ..
  | .mutableDefault .. | .tooManyMethods .. | .reservedName .. => .schema
  | .hookMissing .. | .hookNotCallable .. | .hookUninspectable .. | .hookNeedsKeyword ..
  | .getterArity .. | .setterArity .. | .setterResult .. => .configuration
  | .unreadable .. => .unsupported
  | .batchTooSmall .. => .range
  | .negativeMaskCount .. | .negativeSize | .negativeShift | .nullInEnvironment
  | .illegalVariableName => .value
  | .positionTooLarge | .byteOutOfRange | .slotOutOfRange | .slotAssignmentOutOfRange => .index
  | .unhashable .. | .handlerNotCallable .. | .notCompiled .. | .notAnInteger ..
  | .incomparable .. | .unsupportedOperands .. | .cannotContinue .. | .cannotAppend ..
  | .notCallable .. | .notIterable .. | .noMetadata | .wrongArguments .. => .type
  | .tooLargeForFloat | .sizeTooLarge | .tooManyDigits => .overflow
  | .outOfMemory => .memory
  | .emptyVariableName => .system
  | .noSetter .. | .notDeletable .. | .noDeleter .. | .noAttribute ..
  | .fixedAttribute .. => .attribute
  | .raised kind _ => kind
  | .invalidSettings .. | .frozenSetting .. => .validation

/-- The report of a cause. Settings report one problem per field instead of a text. -/
def message : Fault → String
  | .notAClass described => "Contract must be a class, got " ++ described
  | .alreadyCompiled className => className ++ " is already a compiled entity class"
  | .unresolvedName className name =>
    "Cannot resolve annotations of " ++ className ++ ": name '" ++ name ++ "' is not defined"
  | .eventMember className member =>
    "Contract " ++ className ++ " cannot declare event member '" ++ member ++ "'"
  | .mutableDefault typeName property className =>
    "Mutable default " ++ typeName ++ " for property '" ++ property ++ "' of " ++ className
      ++ " would be shared by every entity"
  | .tooManyMethods className methods properties =>
    "Contract " ++ className ++ " declares " ++ toString methods ++ " methods for "
      ++ toString properties ++ " properties; contracts must be property-only"
  | .reservedName property className =>
    "Property name '" ++ property ++ "' of " ++ className ++ " is reserved"
  | .hookMissing property source =>
    "Not found the extension hook of the '" ++ property ++ "' property in " ++ source
  | .hookNotCallable hook => "Extension hook " ++ hook ++ " is not callable"
  | .hookUninspectable hook reason => "Cannot inspect extension hook " ++ hook ++ ": " ++ reason
  | .hookNeedsKeyword hook parameter =>
    "Extension hook " ++ hook ++ " has required keyword-only parameter '" ++ parameter ++ "'"
  | .getterArity hook => "Extension hook " ++ hook ++ " must accept (entity) or (entity, current)"
  | .setterArity hook => "Extension hook " ++ hook ++ " must accept (entity, value)"
  | .setterResult hook => "Invalid extension hook " ++ hook ++ ", its return type must be bool"
  | .unreadable property owner =>
    "Property '" ++ property ++ "' of " ++ owner ++ " is read-only and has no extension getter"
  | .batchTooSmall count => "Entity count must be at least 1, got " ++ count
  | .negativeMaskCount count => "Mask bit count must be non-negative, got " ++ toString count
  | .negativeSize => "negative count"
  | .negativeShift => "negative shift count"
  | .byteOutOfRange => "bytearray index out of range"
  | .positionTooLarge | .sizeTooLarge => "cannot fit 'int' into an index-sized integer"
  | .tooManyDigits => "too many digits in integer"
  | .outOfMemory => ""
  | .slotOutOfRange => "list index out of range"
  | .slotAssignmentOutOfRange => "list assignment index out of range"
  | .unhashable typeName => "unhashable type: '" ++ typeName ++ "'"
  | .handlerNotCallable described => "Property changed handler must be callable, got " ++ described
  | .notCompiled className =>
    className ++ " is not a compiled entity class; use entitykit.build()"
  | .notAnInteger typeName =>
    "'" ++ typeName ++ "' object cannot be interpreted as an integer"
  | .incomparable relation left right =>
    "'" ++ relation ++ "' not supported between instances of '" ++ left ++ "' and '" ++ right ++ "'"
  | .unsupportedOperands operation left right =>
    "unsupported operand type(s) for " ++ operation ++ ": '" ++ left ++ "' and '" ++ right ++ "'"
  | .cannotContinue sequence typeName =>
    "can only concatenate " ++ sequence ++ " (not \"" ++ typeName ++ "\") to " ++ sequence
  | .cannotAppend typeName bytes => "can't concat " ++ typeName ++ " to " ++ bytes
  | .tooLargeForFloat => "int too large to convert to float"
  | .notCallable typeName => "'" ++ typeName ++ "' object is not callable"
  | .notIterable typeName => "'" ++ typeName ++ "' object is not iterable"
  | .nullInEnvironment => "embedded null byte"
  | .illegalVariableName => "illegal environment variable name"
  | .emptyVariableName => "[Errno 22] Invalid argument"
  | .noMetadata =>
    "Annotated[...] should be used with at least two arguments (a type and an annotation)."
  | .wrongArguments given => "hook cannot be called with " ++ toString given ++ " arguments"
  | .noSetter property className =>
    "property '" ++ property ++ "' of '" ++ className ++ "' object has no setter"
  | .notDeletable property className =>
    "property '" ++ property ++ "' of '" ++ className ++ "' object cannot be deleted"
  | .noDeleter property className =>
    "property '" ++ property ++ "' of '" ++ className ++ "' object has no deleter"
  | .noAttribute className name =>
    "'" ++ className ++ "' object has no attribute '" ++ name ++ "'"
  | .fixedAttribute className name =>
    "'" ++ className ++ "' object attribute '" ++ name ++ "' is read-only"
  | .raised _ text => text
  | .invalidSettings _ | .frozenSetting _ => ""

/-- The settings that a fault is about, each with its problem. -/
def problems : Fault → List (String × SettingProblem)
  | .invalidSettings problems => problems.map fun (name, problem) => (name.key, problem)
  | .frozenSetting name => [(name, .frozen)]
  | _ => []

end Fault

end TrackedEntity
