import Mathlib.Data.List.Induction
import TrackedEntity.Channel.Exchange

/-!
# Changes as operations on lists

A change to the handlers is a plain operation on a list (`Edit.onList`): an addition appends, and a
removal erases the last element that passes its test, if there is one.  The channel finds out first
whether there is anything to change; that makes no difference to the handlers
(`Edit.change?_eq_some`, `Edit.change?_eq_none`).

`Edit.outcome` makes changes one after another, beginning with no handlers.  Nothing is lost or
duplicated in it (`Edit.outcome_accounts`): what was added is what is there and what was dropped,
and each removal drops at most one handler, which passes its test.
-/

namespace TrackedEntity

variable {α : Type u}

/-! ### Single changes -/

/-- The removal of the last element that passes a test, in terms of the first one from the other
end. -/
theorem removeLast?_eq (passes : α → Bool) (xs : List α) :
    removeLast? passes xs =
      if xs.any passes then some (xs.reverse.eraseP passes).reverse else none := by
  induction xs with
  | nil => rfl
  | cons x xs ih =>
    rw [removeLast?, ih, List.any_cons, List.reverse_cons]
    by_cases hxs : xs.any passes = true
    · -- the last one that passes is not `x`
      obtain ⟨y, hy, hpasses⟩ := List.any_eq_true.1 hxs
      rw [List.eraseP_append_left hpasses _ (List.mem_reverse.2 hy)]
      simp [hxs]
    · have hnone : ∀ y ∈ xs.reverse, ¬ passes y = true := fun y hy hpasses =>
        hxs (List.any_eq_true.2 ⟨y, List.mem_reverse.1 hy, hpasses⟩)
      rw [List.eraseP_append_right _ hnone]
      cases hx : passes x with
      | false => simp [hxs]
      | true => simp [hxs, hx]

namespace Edit

/-- A change as an operation on lists. -/
def onList : Edit α → List α → List α
  | .add h, xs => xs ++ [h]
  | .remove passes, xs => (xs.reverse.eraseP passes).reverse

theorem change?_eq_some {e : Edit α} {xs ys : List α} (h : e.change? xs = some ys) :
    e.onList xs = ys := by
  cases e with
  | add h' => exact Option.some.inj h
  | remove passes =>
    rw [change?, removeLast?_eq] at h
    split at h
    · exact Option.some.inj h
    · cases h

theorem change?_eq_none {e : Edit α} {xs : List α} (h : e.change? xs = none) :
    e.onList xs = xs := by
  cases e with
  | add h' => cases h
  | remove passes =>
    rw [change?, removeLast?_eq] at h
    split at h
    · cases h
    · rename_i hany
      have hnone : ∀ y ∈ xs.reverse, ¬ passes y = true := fun y hy hpasses =>
        hany (List.any_eq_true.2 ⟨y, List.mem_reverse.1 hy, hpasses⟩)
      rw [onList, List.eraseP_of_forall_not hnone, List.reverse_reverse]

/-- An undisturbed change of a channel changes the handlers as a list. -/
theorem handlers_edit (c : Channel α) (e : Edit α) : (c.edit e).handlers = e.onList c.handlers := by
  unfold Channel.edit
  cases hchange : e.change? c.handlers with
  | none => exact (change?_eq_none hchange).symm
  | some handlers =>
    rw [change?_eq_some hchange]
    show (c.prepare handlers).1.handlers = handlers
    unfold Channel.prepare
    cases handlers with
    | nil => rfl
    | cons h hs => rfl

/-! ### Changes one after another -/

/-- The handlers after changes, one after another, to a channel without handlers. -/
def outcome (edits : List (Edit α)) : List α := edits.foldl (fun xs e => e.onList xs) []

theorem outcome_append (xs ys : List (Edit α)) :
    outcome (xs ++ ys) = ys.foldl (fun xs e => e.onList xs) (outcome xs) :=
  List.foldl_append

theorem outcome_concat (edits : List (Edit α)) (e : Edit α) :
    outcome (edits ++ [e]) = e.onList (outcome edits) := by
  rw [outcome_append]
  rfl

/-- A change that is without effect in its place can be left out. -/
theorem outcome_insert {e : Edit α} {xs : List (Edit α)} (h : e.onList (outcome xs) = outcome xs)
    (ys : List (Edit α)) : outcome (xs ++ e :: ys) = outcome (xs ++ ys) := by
  rw [outcome_append, outcome_append, List.foldl_cons, h]

/-- The handler that a change adds. -/
def added? : Edit α → Option α
  | .add h => some h
  | .remove _ => none

/-- **Nothing is lost or duplicated.**  The handlers that changes added are those that are there
afterwards and those that were dropped, each by a removal whose test it passes and none by a removal
that dropped another one. -/
theorem outcome_accounts {β : Type v} (edit : β → Edit α) (ops : List β) :
    ∃ dropped : List (β × α), (dropped.map Prod.fst).Sublist ops ∧
      (∀ d ∈ dropped, ∃ passes, edit d.1 = .remove passes ∧ passes d.2 = true) ∧
      (ops.filterMap fun op => (edit op).added?).Perm
        (outcome (ops.map edit) ++ dropped.map Prod.snd) := by
  induction ops using List.reverseRecOn with
  | nil => exact ⟨[], List.Sublist.refl _, nofun, List.Perm.refl _⟩
  | append_singleton ops op ih =>
    obtain ⟨dropped, hsub, hpasses, hperm⟩ := ih
    rw [List.map_append, List.map_singleton, outcome_concat, List.filterMap_append]
    cases hop : edit op with
    | add h =>
      refine ⟨dropped, hsub.trans (List.sublist_append_left _ _), hpasses, ?_⟩
      have hadded : [op].filterMap (fun op => (edit op).added?) = [h] := by simp [hop, added?]
      rw [hadded, onList, List.append_assoc]
      refine (hperm.append_right [h]).trans ?_
      rw [List.append_assoc]
      exact List.perm_append_comm.append_left _
    | remove passes =>
      have hadded : [op].filterMap (fun op => (edit op).added?) = [] := by simp [hop, added?]
      rw [hadded, List.append_nil]
      by_cases hany : ∃ x ∈ (outcome (ops.map edit)).reverse, passes x = true
      · -- one more handler is dropped
        obtain ⟨x, hx, hpx⟩ := hany
        obtain ⟨y, xs, ys, -, hpy, hsplit, herase⟩ := List.exists_of_eraseP hx hpx
        refine ⟨dropped ++ [(op, y)], ?_, ?_, ?_⟩
        · rw [List.map_append]
          exact hsub.append (List.Sublist.refl _)
        · intro d hd
          rcases List.mem_append.1 hd with hd | hd
          · exact hpasses d hd
          · obtain rfl := List.mem_singleton.1 hd
            exact ⟨passes, hop, hpy⟩
        · have htaken : (outcome (ops.map edit)).Perm
              ((Edit.remove passes).onList (outcome (ops.map edit)) ++ [y]) := by
            rw [onList, herase]
            have hrest : (y :: (xs ++ ys)).Perm ((xs ++ ys).reverse ++ [y]) :=
              ((List.reverse_perm _).symm.cons y).trans (List.perm_append_singleton y _).symm
            refine (List.reverse_perm _).symm.trans ?_
            rw [hsplit]
            exact List.perm_middle.trans hrest
          refine hperm.trans ((htaken.append_right _).trans ?_)
          rw [List.map_append, List.append_assoc]
          exact List.perm_append_comm.append_left _
      · have hnone : ∀ x ∈ (outcome (ops.map edit)).reverse, ¬ passes x = true :=
          fun x hx hpx => hany ⟨x, hx, hpx⟩
        refine ⟨dropped, hsub.trans (List.sublist_append_left _ _), hpasses, ?_⟩
        rw [onList, List.eraseP_of_forall_not hnone, List.reverse_reverse]
        exact hperm

end Edit

end TrackedEntity
