import TrackedEntity.Fault
import TrackedEntity.Number.Binary64

/-!
# Values

The values that properties hold, hooks return and handlers log. Some of them are objects with an
identity: two lists can be equal and yet two lists. Identity can be observed, since an assignment
to a property of a composite type asks first whether the new value *is* the stored one, and the
elements of containers are compared in the same way. So every object that could be told apart from
an equal one carries an `Identity`; the rest (truth values, integers, texts, bytes, the absence of
a value) carry none.

An identity is a serial number given when the object is made. A value as it stands in the text of
a program is `written`: evaluating it makes a new object each time, except for the parts that refer
to an object made before.

`Value.same` is "the same object". It compares the two values as trees, identities included, which
is exact because no serial number is given twice.
-/

namespace TrackedEntity

/-- What tells an object apart from its equals. -/
inductive Identity where
  /-- Not an object yet: a value as it stands in the text of a program. -/
  | written
  /-- An object, with the serial number that it was made with. -/
  | made (serial : Nat)
deriving DecidableEq, Repr

/-- How an object with an equality of its own answers the question whether it equals another. -/
inductive Comparison (α : Type) where
  /-- It answers with a value, whose truth counts. -/
  | answers (result : α)
  /-- It raises. -/
  | raises (kind : FaultKind) (text : String)
  /-- It answers with something that has no truth value. -/
  | undecided
  /-- It has no opinion; the other side is asked. -/
  | abstains

/-- A value. -/
inductive Value where
  /-- The absence of a value. -/
  | none
  | bool (b : Bool)
  | int (n : Int)
  | str (s : String)
  | bytes (data : List UInt8)
  | float (id : Identity) (x : Binary64)
  | complex (id : Identity) (re im : Binary64)
  | bytearray (id : Identity) (data : List UInt8)
  | list (id : Identity) (items : List Value)
  | tuple (id : Identity) (items : List Value)
  | set (id : Identity) (items : List Value)
  | frozenset (id : Identity) (items : List Value)
  /-- Keys with their values, in the order in which they were inserted. -/
  | dict (id : Identity) (entries : List (Value × Value))
  /-- A pair of coordinates that is equal to any point with equal coordinates. -/
  | point (id : Identity) (tag : Option String) (x y : Value)
  /-- An object that is equal to itself only. -/
  | sentinel (id : Identity) (tag : String)
  /-- An object with an equality of its own. -/
  | comparer (id : Identity) (tag : String) (rule : Comparison Value)
  /-- A function found in a class body. -/
  | function (id : Identity) (name : String)
  /-- A function of a class, bound to the entity that it was read from. -/
  | method (id : Identity) (name : String)
  /-- An object without further structure. -/
  | object (id : Identity)
  /-- The entity that a hook or a handler was called for; its type is its class. -/
  | entity (className : String)
  /-- The channel of that entity. -/
  | channel

instance : Inhabited Value := ⟨.none⟩

namespace Value

/-! ### Sameness -/

mutual

/-- Whether two values are the same object. -/
def same : Value → Value → Bool
  | .none, .none => true
  | .bool a, .bool b => a == b
  | .int a, .int b => a == b
  | .str a, .str b => a == b
  | .bytes a, .bytes b => a == b
  | .float i a, .float j b => i == j && a == b
  | .complex i a b, .complex j c d => i == j && a == c && b == d
  | .bytearray i a, .bytearray j b => i == j && a == b
  | .list i a, .list j b => i == j && sameItems a b
  | .tuple i a, .tuple j b => i == j && sameItems a b
  | .set i a, .set j b => i == j && sameItems a b
  | .frozenset i a, .frozenset j b => i == j && sameItems a b
  | .dict i a, .dict j b => i == j && sameEntries a b
  | .point i s a b, .point j t c d => i == j && s == t && same a c && same b d
  | .sentinel i s, .sentinel j t => i == j && s == t
  | .comparer i s a, .comparer j t b => i == j && s == t && sameRule a b
  | .function i s, .function j t => i == j && s == t
  | .method i s, .method j t => i == j && s == t
  | .object i, .object j => i == j
  | .entity s, .entity t => s == t
  | .channel, .channel => true
  | _, _ => false
termination_by structural a => a

/-- Sameness of sequences, element by element. -/
def sameItems : List Value → List Value → Bool
  | [], [] => true
  | a :: as, b :: bs => same a b && sameItems as bs
  | _, _ => false
termination_by structural as => as

/-- Sameness of entries, pair by pair. -/
def sameEntries : List (Value × Value) → List (Value × Value) → Bool
  | [], [] => true
  | (k, v) :: as, (k', v') :: bs => same k k' && same v v' && sameEntries as bs
  | _, _ => false
termination_by structural as => as

/-- Sameness of the answers of two objects with an equality of their own. -/
def sameRule : Comparison Value → Comparison Value → Bool
  | .answers a, .answers b => same a b
  | .raises k s, .raises l t => k == l && s == t
  | .undecided, .undecided => true
  | .abstains, .abstains => true
  | _, _ => false
termination_by structural a => a

end

mutual

/-- Values that are the same are equal as trees. -/
theorem eq_of_same {a b : Value} (h : same a b = true) : a = b := by
  cases a <;> cases b <;>
    simp only [same, Bool.and_eq_true, beq_iff_eq, Bool.false_eq_true] at h
  case none.none | channel.channel => rfl
  case bool.bool | int.int | str.str | bytes.bytes | object.object | entity.entity => rw [h]
  case float.float | bytearray.bytearray | sentinel.sentinel | function.function
      | method.method => rw [h.1, h.2]
  case complex.complex => rw [h.1.1, h.1.2, h.2]
  case list.list | tuple.tuple | set.set | frozenset.frozenset => rw [h.1, eq_of_sameItems h.2]
  case dict.dict => rw [h.1, eq_of_sameEntries h.2]
  case point.point =>
    obtain ⟨⟨⟨hi, ht⟩, hx⟩, hy⟩ := h
    rw [hi, ht, eq_of_same hx, eq_of_same hy]
  case comparer.comparer => rw [h.1.1, h.1.2, eq_of_sameRule h.2]

theorem eq_of_sameItems : ∀ {as bs : List Value}, sameItems as bs = true → as = bs
  | [], [], _ => rfl
  | a :: as, b :: bs, h => by
    simp only [sameItems, Bool.and_eq_true] at h
    rw [eq_of_same h.1, eq_of_sameItems h.2]
  | [], _ :: _, h => by simp [sameItems] at h
  | _ :: _, [], h => by simp [sameItems] at h

theorem eq_of_sameEntries : ∀ {as bs : List (Value × Value)}, sameEntries as bs = true → as = bs
  | [], [], _ => rfl
  | (k, v) :: as, (k', v') :: bs, h => by
    simp only [sameEntries, Bool.and_eq_true] at h
    rw [eq_of_same h.1.1, eq_of_same h.1.2, eq_of_sameEntries h.2]
  | [], _ :: _, h => by simp [sameEntries] at h
  | _ :: _, [], h => by simp [sameEntries] at h

theorem eq_of_sameRule : ∀ {a b : Comparison Value}, sameRule a b = true → a = b
  | .answers a, .answers b, h => by
    simp only [sameRule] at h
    rw [eq_of_same h]
  | .raises k s, .raises l t, h => by
    simp only [sameRule, Bool.and_eq_true, beq_iff_eq] at h
    rw [h.1, h.2]
  | .undecided, .undecided, _ => rfl
  | .abstains, .abstains, _ => rfl
  | .answers _, .raises .., h | .answers _, .undecided, h | .answers _, .abstains, h
  | .raises .., .answers _, h | .raises .., .undecided, h | .raises .., .abstains, h
  | .undecided, .answers _, h | .undecided, .raises .., h | .undecided, .abstains, h
  | .abstains, .answers _, h | .abstains, .raises .., h | .abstains, .undecided, h => by
    simp [sameRule] at h

end

mutual

theorem same_refl : ∀ a : Value, same a a = true
  | .none | .channel => by simp [same]
  | .bool _ | .int _ | .str _ | .bytes _ | .entity _ => by simp [same]
  | .float _ _ | .complex _ _ _ | .bytearray _ _ | .sentinel _ _ | .function _ _ | .method _ _
  | .object _ => by simp [same]
  | .list _ as | .tuple _ as | .set _ as | .frozenset _ as => by simp [same, sameItems_refl as]
  | .dict _ es => by simp [same, sameEntries_refl es]
  | .point _ _ x y => by simp [same, same_refl x, same_refl y]
  | .comparer _ _ (.answers r) => by simp [same, sameRule, same_refl r]
  | .comparer _ _ (.raises _ _) | .comparer _ _ .undecided | .comparer _ _ .abstains => by
    simp [same, sameRule]

theorem sameItems_refl : ∀ as : List Value, sameItems as as = true
  | [] => by simp [sameItems]
  | a :: as => by simp [sameItems, same_refl a, sameItems_refl as]

theorem sameEntries_refl : ∀ es : List (Value × Value), sameEntries es es = true
  | [] => by simp [sameEntries]
  | (k, v) :: es => by simp [sameEntries, same_refl k, same_refl v, sameEntries_refl es]

end

/-- Sameness is equality of the trees. -/
@[simp] theorem same_iff {a b : Value} : same a b = true ↔ a = b :=
  ⟨eq_of_same, fun h => h ▸ same_refl a⟩

instance : DecidableEq Value := fun a b =>
  if h : same a b = true then isTrue (same_iff.1 h) else isFalse fun e => h (same_iff.2 e)

end Value

end TrackedEntity
