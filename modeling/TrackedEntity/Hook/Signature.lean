import TrackedEntity.Value.Basic

/-!
# Parameter lists

A hook has a list of parameters. `bind` gives positional arguments to it as a call does: each
positional parameter takes the next argument or its default, a rest parameter takes all that
remain, keyword-only parameters must have a default. The result is the sequence of arguments that
the hook sees.

`required` and `maximum` count what a list needs and takes at most. They are what analysis looks at
before any call is made.
-/

namespace TrackedEntity

/-- The kind of a parameter. -/
inductive ParameterKind where
  /-- Given by position, perhaps also by name. -/
  | positional
  /-- Given by position only. -/
  | positionalOnly
  /-- All remaining positional arguments. -/
  | rest
  /-- Given by name only. -/
  | keywordOnly
  /-- All remaining named arguments. -/
  | keywords
deriving DecidableEq, Repr

/-- A parameter of a hook; the receiver of a method is not among them. -/
structure Parameter where
  name : String
  kind : ParameterKind
  hasDefault : Bool
deriving DecidableEq, Repr

/-- A list of parameters, in order. -/
abbrev Signature := List Parameter

namespace Signature

/-- Whether a parameter takes one positional argument. -/
def takesOne (p : Parameter) : Bool := p.kind = .positional || p.kind = .positionalOnly

/-- The number of positional arguments that a call must give. -/
def required (s : Signature) : Nat := (s.filter fun p => takesOne p && !p.hasDefault).length

/-- The number of positional arguments that a call may give; `none` when there is no limit. -/
def maximum (s : Signature) : Option Nat :=
  if s.any (·.kind = .rest) then none else some (s.filter takesOne).length

/-- Whether a number of positional arguments lies between what is required and the maximum. -/
def admits (s : Signature) (count : Nat) : Bool :=
  s.required ≤ count && (match s.maximum with | none => true | some most => count ≤ most)

/-- The first keyword-only parameter without default. -/
def neededKeyword? (s : Signature) : Option Parameter :=
  s.find? fun p => p.kind = .keywordOnly && !p.hasDefault

/-- The arguments that a hook sees when it is called with positional arguments only, or `none` when
it cannot be called with them. A default is the absence of a value. -/
def bind : Signature → List Value → Option (List Value)
  | [], [] => some []
  | [], _ :: _ => none
  | p :: ps, args =>
    match p.kind with
    | .positional | .positionalOnly =>
      match args with
      | a :: rest => (bind ps rest).map (a :: ·)
      | [] => if p.hasDefault then (bind ps []).map (.none :: ·) else none
    | .rest => (bind ps []).map (args ++ ·)
    | .keywordOnly => if p.hasDefault then bind ps args else none
    | .keywords => bind ps args

/-- One positional parameter, as the built-in functions of one argument have it. -/
def single (name : String) : Signature := [⟨name, .positionalOnly, false⟩]

end Signature

end TrackedEntity
