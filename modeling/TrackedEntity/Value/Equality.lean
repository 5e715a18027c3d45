import TrackedEntity.Value.Truth

/-!
# Equality of values

`Value.equals a b` is the truth of "`a` equals `b`", or the fault that the question raises.

* Numbers are equal when their exact values are, across all number types.
* Texts, bytes, sequences, sets and mappings compare by content within their families. Their
  elements are compared *identity first*: the same object is equal to itself without being asked.
  So a list that holds something that is not equal to itself is still equal to itself.
* A point equals a point with equal coordinates, and answers for itself.
* An object with an equality of its own is asked when it stands on the left; on the right it is
  asked when the left side has no opinion.
* A function bound to the entity is equal to every binding of the same function.
* Everything else is equal to itself only.

On this rest the two checks that suppress assignments without effect. `directlyEqual` is the
question itself, for properties of a primitive type; `identityFirst` asks for identity before, for
all others.
-/

namespace TrackedEntity

/-- The truth of a comparison, or the fault that it raised. -/
abbrev Verdict := Except Fault Bool

namespace Comparison

/-- What an object with its own equality answers; `none` when it abstains. -/
def verdict? : Comparison Value → Option Verdict
  | .answers result => some (.ok result.truthy)
  | .raises kind text => some (.error (.raised kind text))
  | .undecided => some (.error (.raised .value "no truth value"))
  | .abstains => none

end Comparison

namespace Value

/-- The rule for elements: the same object, or else equal. -/
@[macro_inline] def sameOr (a b : Value) (equal : Verdict) : Verdict :=
  if same a b then .ok true else equal

/-- The first element that satisfies a test that may fail. -/
def firstThat (p : α → Verdict) : List α → Except Fault (Option α)
  | [] => .ok Option.none
  | x :: xs =>
    match p x with
    | .error f => .error f
    | .ok true => .ok (some x)
    | .ok false => firstThat p xs

/-- The answer of an object with its own equality on the right of something without an opinion. -/
def askRight (b : Value) : Verdict :=
  match b with
  | .comparer _ _ rule => rule.verdict?.getD (.ok false)
  | _ => .ok false

mutual

/-- Whether the left value equals the right one. -/
def equals : Value → Value → Verdict
  | .comparer i s rule, b =>
    match rule.verdict? with
    | some verdict => verdict
    | Option.none =>
      match b with
      | .comparer _ _ rule' => rule'.verdict?.getD (.ok (same (.comparer i s rule) b))
      | _ => .ok false
  | .point _ _ x y, b =>
    match b with
    | .point _ _ x' y' =>
      match sameOr x x' (equals x x') with
      | .ok true => sameOr y y' (equals y y')
      | other => other
    | _ => .ok false
  | .list _ xs, b =>
    match b with
    | .list _ ys => if xs.length = ys.length then itemsEqual xs ys else .ok false
    | _ => askRight b
  | .tuple _ xs, b =>
    match b with
    | .tuple _ ys =>
      match itemsEqual xs ys with
      | .ok true => .ok (xs.length == ys.length)
      | other => other
    | _ => askRight b
  | .set _ xs, b | .frozenset _ xs, b =>
    match b with
    | .set _ ys | .frozenset _ ys =>
      if xs.length = ys.length then itemsWithin xs ys else .ok false
    | _ => askRight b
  | .dict _ xs, b =>
    match b with
    | .dict _ ys => if xs.length = ys.length then entriesWithin xs ys else .ok false
    | _ => askRight b
  | .str s, b =>
    match b with
    | .str t => .ok (s == t)
    | _ => askRight b
  | .bytes s, b | .bytearray _ s, b =>
    match b with
    | .bytes t | .bytearray _ t => .ok (s == t)
    | _ => askRight b
  | .method _ s, b =>
    match b with
    | .method _ t => .ok (s == t)
    | _ => askRight b
  | a, b =>
    match a.number?, b.number? with
    | some (re, im), some (re', im') => .ok (re.equals re' && im.equals im')
    | _, _ => if same a b then .ok true else askRight b
termination_by structural a => a

/-- Whether two sequences agree as far as both go, asked from the left up to the first
difference. -/
def itemsEqual : List Value → List Value → Verdict
  | x :: xs, y :: ys =>
    match sameOr x y (equals x y) with
    | .ok true => itemsEqual xs ys
    | other => other
  | _, _ => .ok true
termination_by structural xs => xs

/-- Whether every element occurs among the others. -/
def itemsWithin : List Value → List Value → Verdict
  | [], _ => .ok true
  | x :: xs, ys =>
    match firstThat (fun y => sameOr x y (equals x y)) ys with
    | .ok (some _) => itemsWithin xs ys
    | .ok Option.none => .ok false
    | .error f => .error f
termination_by structural xs => xs

/-- Whether every key occurs on the other side with an equal value. -/
def entriesWithin : List (Value × Value) → List (Value × Value) → Verdict
  | [], _ => .ok true
  | (k, v) :: xs, ys =>
    match firstThat (fun e => sameOr k e.1 (equals k e.1)) ys with
    | .ok (some e) =>
      match sameOr v e.2 (equals v e.2) with
      | .ok true => entriesWithin xs ys
      | other => other
    | .ok Option.none => .ok false
    | .error f => .error f
termination_by structural xs => xs

end

/-- The check for properties of a primitive type: the value's own equality. -/
def directlyEqual (a b : Value) : Verdict := equals a b

/-- The check for all other properties: identity, then the value's own equality. -/
def identityFirst (a b : Value) : Verdict := sameOr a b (equals a b)

/-- Whether two keys are one, for values that can be keys. -/
def sameKey (a b : Value) : Bool :=
  match identityFirst a b with
  | .ok b => b
  | .error _ => false

/-- The text of a key that is a text. -/
def str? : Value → Option String
  | .str s => some s
  | _ => Option.none

end Value

end TrackedEntity
