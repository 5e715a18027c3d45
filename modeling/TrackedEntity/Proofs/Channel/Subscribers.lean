import Mathlib.Data.List.Induction
import TrackedEntity.Entity.Handler
import TrackedEntity.Proofs.Channel.Edits

/-!
# Who is subscribed

A channel is used by one caller after another: each use adds a handler, or removes the one that was
added last among those that equal a given handler (`ChannelUse`).  Equality of handlers may be any
equivalence.

Handlers that are not equal do not get in each other's way.  What is subscribed of one class of
equal handlers is what a stack holds after the uses that are about this class
(`ChannelUse.stack`), whatever the other uses were.  To say so of handlers that were added more than
once, each is marked with the place of the use that added it (`ChannelUse.marked`): a channel of
marked handlers goes along with the one of handlers (`Channel.subscribed`), and in it the marks go
up.  `Channel.subscribers_by_class` puts this together.
-/

namespace TrackedEntity

variable {α : Type u} {β : Type v}

/-! ### Removing the last one that passes -/

/-- Of the elements that pass the same test, removing the last one leaves all but the last. -/
theorem filter_onList_remove (p : α → Bool) (xs : List α) :
    ((Edit.remove p).onList xs).filter p = (xs.filter p).dropLast := by
  have hfirst : ∀ ys : List α, (ys.eraseP p).filter p = (ys.filter p).tail := by
    intro ys
    induction ys with
    | nil => rfl
    | cons y ys ih =>
      cases hy : p y with
      | true => simp [List.eraseP_cons_of_pos, hy]
      | false => simpa [List.eraseP_cons_of_neg, hy] using ih
  rw [Edit.onList, List.filter_reverse, hfirst, List.filter_reverse, List.tail_reverse,
    List.reverse_reverse]

/-- Elements that pass no test in common with the removed one stay. -/
theorem filter_onList_remove_of_disjoint {p q : α → Bool} (h : ∀ x, p x = true → q x = false)
    (xs : List α) : ((Edit.remove p).onList xs).filter q = xs.filter q := by
  have hfirst : ∀ ys : List α, (ys.eraseP p).filter q = ys.filter q := by
    intro ys
    induction ys with
    | nil => rfl
    | cons y ys ih =>
      cases hy : p y with
      | true => simp [List.eraseP_cons_of_pos, hy, h y hy]
      | false => simp [List.eraseP_cons_of_neg, hy, List.filter_cons, ih]
  rw [Edit.onList, List.filter_reverse, hfirst, List.filter_reverse, List.reverse_reverse]

theorem onList_remove_sublist (p : α → Bool) (xs : List α) :
    ((Edit.remove p).onList xs).Sublist xs := by
  have h := (List.eraseP_sublist (p := p) (l := xs.reverse)).reverse
  rwa [List.reverse_reverse] at h

theorem length_onList_remove (p : α → Bool) (xs : List α) :
    ((Edit.remove p).onList xs).length + (if xs.any p then 1 else 0) = xs.length := by
  rw [Edit.onList, List.length_reverse, List.length_eraseP, List.any_reverse, List.length_reverse]
  cases hany : xs.any p with
  | false => simp
  | true =>
    obtain ⟨x, hx, -⟩ := List.any_eq_true.1 hany
    have := List.length_pos_of_mem hx
    simp only [if_true]
    omega

theorem map_onList_remove (f : α → β) (p : β → Bool) (xs : List α) :
    ((Edit.remove (p ∘ f)).onList xs).map f = (Edit.remove p).onList (xs.map f) := by
  rw [Edit.onList, Edit.onList, ← List.map_reverse, List.eraseP_map, List.map_reverse]

/-! ### Uses of a channel -/

/-- What a channel can be asked for. -/
inductive ChannelUse (α : Type u) where
  | add (handler : α)
  /-- Removes the handler that was added last among those that equal a given one. -/
  | remove (handler : α)

namespace ChannelUse

/-- The handler that a use is about. -/
def handler : ChannelUse α → α
  | .add h | .remove h => h

/-- The same use with another handler. -/
def map (f : α → β) : ChannelUse α → ChannelUse β
  | .add h => .add (f h)
  | .remove h => .remove (f h)

/-- The change that a use makes. -/
def edit [BEq α] : ChannelUse α → Edit α
  | .add h => .add h
  | .remove h => .removeEqual h

/-- The change that a use makes where handlers are marked, which makes no difference to them. -/
def markedEdit [BEq α] : ChannelUse (α × ℕ) → Edit (α × ℕ)
  | .add h => .add h
  | .remove h => .remove fun s => s.1 == h.1

/-- Uses, each with its place as a mark on the handler. -/
def marked (uses : List (ChannelUse α)) : List (ChannelUse (α × ℕ)) :=
  uses.mapIdx fun place use => use.map (·, place)

/-- What a stack holds after uses that are all about it, bottom first: an addition pushes, and a
removal pops what was pushed last, if there is anything. -/
def stack (uses : List (ChannelUse α)) : List α :=
  uses.foldl (fun held use =>
    match use with
    | .add h => held ++ [h]
    | .remove _ => held.dropLast) []

/-- Whether a use is an addition. -/
def adds : ChannelUse α → Bool
  | .add _ => true
  | .remove _ => false

/-- Whether a use of a channel is a removal that finds a handler. -/
def finds [BEq α] (c : Channel α) : ChannelUse α → Bool
  | .add _ => false
  | .remove h => c.handlers.any (· == h)

@[simp] theorem handler_map (f : α → β) (use : ChannelUse α) :
    (use.map f).handler = f use.handler := by
  cases use <;> rfl

theorem map_map {γ : Type w} (f : α → β) (g : β → γ) (use : ChannelUse α) :
    (use.map f).map g = use.map (g ∘ f) := by
  cases use <;> rfl

theorem marked_concat (uses : List (ChannelUse α)) (use : ChannelUse α) :
    marked (uses ++ [use]) = marked uses ++ [use.map (·, uses.length)] :=
  List.mapIdx_concat

/-- Without their marks, marked uses are the uses. -/
theorem map_fst_marked (uses : List (ChannelUse α)) :
    (marked uses).map (·.map Prod.fst) = uses := by
  refine List.ext_getElem (by simp [marked]) fun i hi hi' => ?_
  simp only [marked, List.getElem_map, List.getElem_mapIdx, map_map]
  cases uses[i] <;> rfl

theorem stack_concat (uses : List (ChannelUse α)) (use : ChannelUse α) :
    stack (uses ++ [use]) =
      match use with
      | .add h => stack uses ++ [h]
      | .remove _ => (stack uses).dropLast := by
  rw [stack, List.foldl_append]
  cases use <;> rfl

theorem stack_map (f : α → β) (uses : List (ChannelUse α)) :
    stack (uses.map (·.map f)) = (stack uses).map f := by
  induction uses using List.reverseRecOn with
  | nil => rfl
  | append_singleton uses use ih =>
    rw [List.map_append, List.map_singleton, stack_concat, stack_concat, ih]
    cases use with
    | add h => simp [map]
    | remove h => simp [map, List.map_dropLast]

end ChannelUse

/-! ### Channels in use -/

namespace Channel

/-- A writer that nobody disturbs makes its change at once. -/
theorem editWith_undisturbed {γ ε : Type} (c : Channel γ) (e : Edit γ) :
    (c.editWith (ε := ε) e []).result = .ok () ∧ (c.editWith (ε := ε) e []).channel = c.edit e := by
  rw [editWith, edit]
  simp only [Writer.advance]
  rw [editAgainst, handlers]
  cases hchange : e.change? c.current.handlers with
  | none => simp [Writer.advance, hchange]
  | some handlers =>
    have hcurrent : (c.prepare handlers).2.current = c.current := by
      unfold prepare
      split <;> rfl
    simp [Writer.advance, hchange, exchange, hcurrent]

variable {α : Type} [BEq α]

/-- A use of a channel by a writer that nobody disturbs. -/
def use (c : Channel α) (use : ChannelUse α) : Channel α :=
  (c.editWith (ε := Empty) use.edit []).channel

/-- The channel after uses, which begin when it is new. -/
def after (uses : List (ChannelUse α)) : Channel α := uses.foldl Channel.use .empty

/-- The subscribed handlers after uses, each with the place of the use that added it. -/
def subscribed (uses : List (ChannelUse α)) : List (α × ℕ) :=
  Edit.outcome ((ChannelUse.marked uses).map (·.markedEdit))

theorem handlers_use (c : Channel α) (use : ChannelUse α) :
    (c.use use).handlers = use.edit.onList c.handlers := by
  rw [Channel.use, (editWith_undisturbed c use.edit).2, Edit.handlers_edit]

theorem after_concat (uses : List (ChannelUse α)) (use : ChannelUse α) :
    after (uses ++ [use]) = (after uses).use use := by
  rw [after, List.foldl_append]
  rfl

theorem subscribed_concat (uses : List (ChannelUse α)) (use : ChannelUse α) :
    subscribed (uses ++ [use]) =
      (use.map (·, uses.length)).markedEdit.onList (subscribed uses) := by
  rw [subscribed, ChannelUse.marked_concat, List.map_append, List.map_singleton,
    Edit.outcome_concat, subscribed]

/-- Without their marks, the marked handlers are those of the channel. -/
theorem map_fst_subscribed (uses : List (ChannelUse α)) :
    (subscribed uses).map Prod.fst = (after uses).handlers := by
  induction uses using List.reverseRecOn with
  | nil => rfl
  | append_singleton uses use ih =>
    rw [subscribed_concat, after_concat, handlers_use, ← ih]
    cases use with
    | add h => simp [ChannelUse.map, ChannelUse.markedEdit, ChannelUse.edit, Edit.onList]
    | remove h => exact map_onList_remove Prod.fst (· == h) (subscribed uses)

theorem mark_lt_of_mem_subscribed {uses : List (ChannelUse α)} {s : α × ℕ}
    (hs : s ∈ subscribed uses) : s.2 < uses.length ∧ uses[s.2]? = some (.add s.1) := by
  induction uses using List.reverseRecOn with
  | nil => cases hs
  | append_singleton uses use ih =>
    have hbefore : s ∈ subscribed uses →
        s.2 < (uses ++ [use]).length ∧ (uses ++ [use])[s.2]? = some (.add s.1) := by
      intro hs
      obtain ⟨hlt, hadded⟩ := ih hs
      rw [List.length_append, List.getElem?_append_left hlt]
      exact ⟨by omega, hadded⟩
    rw [subscribed_concat] at hs
    cases use with
    | add h =>
      rcases List.mem_append.1 hs with hs | hs
      · exact hbefore hs
      · obtain rfl := List.mem_singleton.1 hs
        simp
    | remove h => exact hbefore ((onList_remove_sublist _ _).subset hs)

/-- The handlers are in the order in which they were added. -/
theorem pairwise_subscribed (uses : List (ChannelUse α)) :
    (subscribed uses).Pairwise (·.2 < ·.2) := by
  induction uses using List.reverseRecOn with
  | nil => exact List.Pairwise.nil
  | append_singleton uses use ih =>
    rw [subscribed_concat]
    cases use with
    | add h =>
      refine List.pairwise_append.2 ⟨ih, List.pairwise_singleton _ _, fun s hs s' hs' => ?_⟩
      obtain rfl := List.mem_singleton.1 hs'
      exact (mark_lt_of_mem_subscribed hs).1
    | remove h => exact ih.sublist (onList_remove_sublist _ _)

/-- **The handlers of one class are a stack** on which the uses work that are about the class. -/
theorem filter_subscribed [EquivBEq α] (uses : List (ChannelUse α)) (h : α) :
    (subscribed uses).filter (·.1 == h) =
      ChannelUse.stack ((ChannelUse.marked uses).filter (·.handler.1 == h)) := by
  induction uses using List.reverseRecOn with
  | nil => rfl
  | append_singleton uses use ih =>
    rw [subscribed_concat, ChannelUse.marked_concat, List.filter_append]
    cases hclass : use.handler == h with
    | true =>
      have honly : [use.map (·, uses.length)].filter (·.handler.1 == h) =
          [use.map (·, uses.length)] := by simp [hclass]
      rw [honly, ChannelUse.stack_concat, ← ih]
      cases use with
      | add h' =>
        have hadded : (h' == h) = true := hclass
        simp [ChannelUse.map, ChannelUse.markedEdit, Edit.onList, hadded]
      | remove h' =>
        -- a handler equals the given one exactly if it belongs to the class
        have hsame : (fun s : α × ℕ => s.1 == h') = fun s => s.1 == h :=
          funext fun s => BEq.congr_right hclass
        simp only [ChannelUse.map, ChannelUse.markedEdit]
        rw [hsame, filter_onList_remove]
    | false =>
      have hnone : [use.map (·, uses.length)].filter (·.handler.1 == h) = [] := by simp [hclass]
      rw [hnone, List.append_nil, ← ih]
      cases use with
      | add h' =>
        have hother : (h' == h) = false := hclass
        simp [ChannelUse.map, ChannelUse.markedEdit, Edit.onList, hother]
      | remove h' =>
        refine filter_onList_remove_of_disjoint (fun s hs => ?_) _
        rw [BEq.congr_left hs]
        exact hclass

/-- What is there was added, and is what no removal has found. -/
theorem length_handlers_after (uses : List (ChannelUse α)) :
    (after uses).handlers.length +
        uses.zipIdx.countP (fun u => u.1.finds (after (uses.take u.2))) =
      uses.countP (·.adds) := by
  induction uses using List.reverseRecOn with
  | nil => rfl
  | append_singleton uses use ih =>
    -- the uses before have the same uses before them
    have hbefore : uses.zipIdx.countP (fun u => u.1.finds (after ((uses ++ [use]).take u.2))) =
        uses.zipIdx.countP (fun u => u.1.finds (after (uses.take u.2))) := by
      refine List.countP_congr fun u hu => ?_
      have hlt := List.snd_lt_of_mem_zipIdx hu
      rw [List.take_append_of_le_length (by omega)]
    rw [List.zipIdx_append, List.countP_append, hbefore, List.countP_append, ← ih, after_concat,
      handlers_use]
    have hall : (uses ++ [use]).take uses.length = uses := by simp
    cases use with
    | add h =>
      simp [ChannelUse.edit, Edit.onList, ChannelUse.finds, ChannelUse.adds]
      omega
    | remove h =>
      have hlength := length_onList_remove (· == h) (after uses).handlers
      simp only [ChannelUse.edit, Edit.removeEqual, List.zipIdx_singleton, List.countP_singleton,
        Nat.zero_add, ChannelUse.finds, ChannelUse.adds, hall]
      simp only [Bool.false_eq_true, if_false]
      omega

/-- What was just added is the first to be removed. -/
theorem handlers_add_remove [ReflBEq α] (c : Channel α) (h : α) :
    ((c.use (.add h)).use (.remove h)).handlers = c.handlers := by
  rw [handlers_use, handlers_use]
  simp [ChannelUse.edit, Edit.removeEqual, Edit.onList]

/-- **Handlers that are not equal do not disturb each other.**

After any uses of a new channel, the subscribed handlers of every class of equal ones are what a
stack holds after the uses that are about the class; marked with the places of the uses that added
them, all handlers stand in the order of their marks, and each class is the stack of its marked
uses.  There are as many as were added, less one for each removal that found a handler.  An addition
and a removal of the same handler leave those of any channel as they were. -/
theorem subscribers_by_class [EquivBEq α] (uses : List (ChannelUse α)) :
    (∀ h : α, (after uses).handlers.filter (· == h) =
      ChannelUse.stack (uses.filter (·.handler == h))) ∧
    (∃ subscribed : List (α × ℕ), (after uses).handlers = subscribed.map Prod.fst ∧
      subscribed.Pairwise (·.2 < ·.2) ∧ (∀ s ∈ subscribed, uses[s.2]? = some (.add s.1)) ∧
      ∀ h : α, subscribed.filter (·.1 == h) =
        ChannelUse.stack ((ChannelUse.marked uses).filter (·.handler.1 == h))) ∧
    (after uses).handlers.length +
        uses.zipIdx.countP (fun u => u.1.finds (after (uses.take u.2))) =
      uses.countP (·.adds) ∧
    ∀ (c : Channel α) (h : α),
      ((c.use (.add h)).use (.remove h)).handlers = c.handlers := by
  refine ⟨fun h => ?_, ⟨subscribed uses, (map_fst_subscribed uses).symm, pairwise_subscribed uses,
    fun s hs => (mark_lt_of_mem_subscribed hs).2, filter_subscribed uses⟩,
    length_handlers_after uses, handlers_add_remove⟩
  have hunmarked : uses.filter (·.handler == h) =
      ((ChannelUse.marked uses).filter (·.handler.1 == h)).map (·.map Prod.fst) := by
    conv_lhs => rw [← ChannelUse.map_fst_marked uses, List.filter_map]
    refine congrArg _ (List.filter_congr fun use _ => ?_)
    simp
  rw [hunmarked, ChannelUse.stack_map, ← filter_subscribed, ← map_fst_subscribed, List.filter_map]
  rfl

end Channel

/-- Equality of handlers is the equality of what they are told apart by. -/
instance : EquivBEq Handler where
  rfl := by simp [BEq.beq]
  symm := by
    intro a b h
    simp only [BEq.beq, decide_eq_true_eq] at h ⊢
    exact h.symm
  trans := by
    intro a b c hab hbc
    simp only [BEq.beq, decide_eq_true_eq] at hab hbc ⊢
    exact hab.trans hbc

namespace Sample

/-- Two handlers that are equal by their key, and one that equals itself only. -/
def firstKeyed : Handler := ⟨"first", .key "audit", .const .none⟩
def secondKeyed : Handler := ⟨"second", .key "audit", .const .none⟩
def printer : Handler := ⟨"printer", .itself "printer", .const .none⟩

/-- Uses that add the same handler twice with another one between, and remove an equal one. -/
def keyedUses : List (ChannelUse Handler) :=
  [.add firstKeyed, .remove printer, .add printer, .add firstKeyed, .remove secondKeyed]

end Sample

open Sample in
/-- Of two equal handlers the one that was added last is removed, though another one is given, and
the handler between them stays behind the first; one removal finds nothing. -/
theorem Channel.subscribers_by_class_keyed :
    ((Channel.after keyedUses).handlers.filter (· == secondKeyed)).map (·.name) = ["first"] ∧
    (Channel.after keyedUses).handlers.map (·.name) = ["first", "printer"] ∧
    (Channel.after keyedUses).handlers.length + 1 = 3 := by
  obtain ⟨hstacks, -, hlength, -⟩ := Channel.subscribers_by_class keyedUses
  exact ⟨by rw [hstacks]; rfl, rfl, hlength⟩

end TrackedEntity
