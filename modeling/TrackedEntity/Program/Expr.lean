import TrackedEntity.Value.Basic

/-!
# Bodies

Hooks, handlers and the initializers of batches have bodies: expressions of a small language that
computes with values and works on the entity at hand. An expression can read and assign the
entity's properties, ask for its changes, change the list of its subscribers, write to a log, and
raise.
-/

namespace TrackedEntity

/-- An expression. -/
inductive Expr where
  /-- A value as written; every evaluation makes a new object. -/
  | const (v : Value)
  /-- The argument at a position, which is counted from either end. -/
  | arg (position : Int)
  /-- The number of arguments. -/
  | argCount
  /-- Reads an attribute of the entity. -/
  | get (name : String)
  /-- Reads a property that has something to report. -/
  | tryGet (name : String)
  /-- The changed properties with their stored values. -/
  | changes
  /-- Whether any of the named properties changed. -/
  | hasChanges (names : List Value)
  /-- Assigns an attribute of the entity. -/
  | set (name : String) (value : Expr)
  /-- Assigns a property if it can be assigned. -/
  | trySet (name : String) (value : Expr)
  /-- Whether two values are equal. -/
  | equals (left right : Expr)
  /-- Whether a value is the absence of a value. -/
  | isNone (e : Expr)
  | not (e : Expr)
  /-- The first value that does not count as true, or the second one. -/
  | and (left right : Expr)
  /-- The first value that counts as true, or the second one. -/
  | or (left right : Expr)
  | ite (condition yes no : Expr)
  /-- The sum of two numbers, or one text or sequence after the other. -/
  | plus (left right : Expr)
  /-- Whether the first value is at least the second. -/
  | atLeast (left right : Expr)
  /-- A text or bytes without blanks at the ends. -/
  | strip (e : Expr)
  | tuple (items : List Expr)
  /-- Writes a value to the log and gives it back. -/
  | log (e : Expr)
  /-- Evaluates in order and gives the last value. -/
  | seq (steps : List Expr)
  /-- Raises. -/
  | raise (kind : FaultKind) (text : String)
  /-- Subscribes a handler. -/
  | subscribe (handler : String)
  /-- Unsubscribes a handler. -/
  | unsubscribe (handler : String)
  /-- The description of the entity. -/
  | describe
  /-- A new object without further structure. -/
  | newObject

instance : Inhabited Expr := ⟨.const .none⟩

end TrackedEntity
