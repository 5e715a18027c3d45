import Mathlib.Data.List.Nodup
import TrackedEntity.Table

/-!
# Looking up in tables

A table whose keys are distinct is a finite function: looking a key up finds the one entry with that
key (`get?_eq_some_iff`).  Writing pairs with distinct keys one after another gives the list of the
pairs (`ofPairs_eq_self`), and `putNew` keeps keys distinct (`nodup_keys_putNew`).

Writing a key is seen where that key is looked up (`get?_put_self`) and nowhere else
(`get?_put_of_ne`), whatever the keys of the table are.

Where the first entry of a key wins, a table is what is left of a list without the repetitions of
earlier keys (`foldl_putNew_eq`), and of each key the first item is left (`mem_eraseDupsBy_iff`).
-/

namespace TrackedEntity.Table

variable {κ : Type u} {α : Type v} [BEq κ]

theorem mem_putNew {t : Table κ α} {k : κ} {v : α} {e : κ × α} (h : e ∈ putNew t k v) :
    e ∈ t ∨ e = (k, v) := by
  unfold putNew at h
  split at h
  · exact Or.inl h
  · simpa using h

variable [LawfulBEq κ]

/-- What is found stands in the table. -/
theorem mem_of_get? {t : Table κ α} {k : κ} {v : α} (h : get? t k = some v) : (k, v) ∈ t := by
  obtain ⟨before, after, rfl, -⟩ := List.lookup_eq_some_iff.1 h
  exact List.mem_append_right _ List.mem_cons_self

theorem get?_eq_some_iff {t : Table κ α} (h : (keys t).Nodup) {k : κ} {v : α} :
    get? t k = some v ↔ (k, v) ∈ t := by
  induction t with
  | nil => simp [get?]
  | cons e t ih =>
    obtain ⟨k', v'⟩ := e
    simp only [keys, List.map_cons, List.nodup_cons] at h
    rw [get?, List.lookup_cons]
    by_cases hk : k == k'
    · simp only [hk]
      obtain rfl := LawfulBEq.eq_of_beq hk
      constructor
      · rintro ⟨⟩
        exact List.mem_cons_self
      · intro hmem
        rcases List.mem_cons.1 hmem with heq | hmem
        · rw [Prod.mk.injEq] at heq
          rw [heq.2]
        · exact absurd (List.mem_map_of_mem (f := Prod.fst) hmem) h.1
    · have hne : k ≠ k' := fun heq => hk (by simp [heq])
      simp only [hk]
      rw [← get?, ih h.2]
      simp [hne]

theorem has_iff {t : Table κ α} {k : κ} : has t k = true ↔ k ∈ keys t := by
  simp [has, keys]

/-- A key that is not there yet goes to the end. -/
theorem put_of_not_mem {t : Table κ α} {k : κ} (h : k ∉ keys t) (v : α) :
    put t k v = t ++ [(k, v)] := by
  induction t with
  | nil => rfl
  | cons e t ih =>
    obtain ⟨k', v'⟩ := e
    simp only [keys, List.map_cons, List.mem_cons, not_or] at h
    rw [put, if_neg (by simpa using fun heq => h.1 heq.symm), ih h.2]
    rfl

theorem foldl_put_eq_append {pairs t : Table κ α} (h : (keys (t ++ pairs)).Nodup) :
    pairs.foldl (fun t p => put t p.1 p.2) t = t ++ pairs := by
  induction pairs generalizing t with
  | nil => simp
  | cons p pairs ih =>
    have hp : p.1 ∉ keys t := by
      rw [keys, List.map_append, List.nodup_append] at h
      exact fun hmem => h.2.2 _ hmem _ (List.mem_map_of_mem List.mem_cons_self) rfl
    rw [List.foldl_cons, put_of_not_mem hp, ih (by simpa using h)]
    simp

/-- Pairs with distinct keys are a table as they stand. -/
theorem ofPairs_eq_self {pairs : Table κ α} (h : (keys pairs).Nodup) : ofPairs pairs = pairs := by
  rw [ofPairs, foldl_put_eq_append (by simpa using h), List.nil_append]

theorem nodup_keys_putNew {t : Table κ α} (h : (keys t).Nodup) (k : κ) (v : α) :
    (keys (putNew t k v)).Nodup := by
  unfold putNew
  split
  · exact h
  · rename_i hk
    rw [has_iff] at hk
    rw [keys, List.map_append, List.nodup_append]
    refine ⟨h, by simp, ?_⟩
    rintro a ha b hb rfl
    obtain rfl : a = k := by simpa using hb
    exact hk ha

/-! ### Writing -/

omit [LawfulBEq κ] in
theorem get?_cons (e : κ × α) (t : Table κ α) (k : κ) :
    get? (e :: t) k = if k == e.1 then some e.2 else get? t k := by
  rw [get?, List.lookup_cons]
  cases k == e.1 with
  | true => rfl
  | false => rfl

theorem get?_eq_none_iff {t : Table κ α} {k : κ} : get? t k = none ↔ k ∉ keys t := by
  induction t with
  | nil => simp [get?, keys]
  | cons e t ih =>
    rw [get?_cons, keys, List.map_cons, List.mem_cons, not_or, ← keys, ← ih]
    by_cases hk : k = e.1
    · simp [hk]
    · simp [hk]

theorem get?_put_self (t : Table κ α) (k : κ) (v : α) : get? (put t k v) k = some v := by
  induction t with
  | nil => simp [put, get?_cons]
  | cons e t ih =>
    rw [put]
    split
    · next hk => simp [get?_cons, LawfulBEq.eq_of_beq hk]
    · next hk =>
      have hne : k ≠ e.1 := fun h => hk (by simp [h])
      rw [get?_cons, if_neg (by simpa using hne), ih]

theorem get?_put_of_ne {k k' : κ} (h : k' ≠ k) (t : Table κ α) (v : α) :
    get? (put t k v) k' = get? t k' := by
  induction t with
  | nil => simp [put, get?_cons, h]
  | cons e t ih =>
    rw [put]
    split
    · next hk =>
      have hne : k' ≠ e.1 := by rwa [LawfulBEq.eq_of_beq hk]
      rw [get?_cons, get?_cons, if_neg (by simpa using hne), if_neg (by simpa using hne)]
    · rw [get?_cons, get?_cons, ih]

/-- Writing what is there already changes nothing. -/
theorem put_of_get? {t : Table κ α} {k : κ} {v : α} (h : get? t k = some v) : put t k v = t := by
  induction t with
  | nil => cases h
  | cons e t ih =>
    rw [get?_cons] at h
    rw [put]
    by_cases hk : e.1 = k
    · rw [if_pos (by simp [hk])] at h
      obtain rfl := Option.some.inj h
      rw [if_pos (by simp [hk])]
    · rw [if_neg (by simpa using Ne.symm hk)] at h
      rw [if_neg (by simpa using hk), ih h]

/-- Of two writes of a key the second one counts. -/
theorem put_put (t : Table κ α) (k : κ) (v v' : α) : put (put t k v) k v' = put t k v' := by
  induction t with
  | nil => simp [put]
  | cons e t ih =>
    by_cases hk : e.1 == k
    · simp [put, hk]
    · simp [put, hk, ih]

theorem mem_keys_put {t : Table κ α} {k k' : κ} {v : α} :
    k' ∈ keys (put t k v) ↔ k' = k ∨ k' ∈ keys t := by
  rw [← not_iff_not, not_or, ← get?_eq_none_iff, ← get?_eq_none_iff]
  by_cases hk : k' = k
  · simp [hk, get?_put_self]
  · simp [hk, get?_put_of_ne]

omit [LawfulBEq κ] in
/-- Looking up after all values were changed in the same way. -/
theorem get?_map_values {β : Type w} (f : α → β) (t : Table κ α) (k : κ) :
    get? (t.map fun e => (e.1, f e.2)) k = (get? t k).map f := by
  induction t with
  | nil => rfl
  | cons e t ih =>
    rw [List.map_cons, get?_cons, get?_cons, ih]
    split
    · rfl
    · rfl

omit [LawfulBEq κ] in
/-- Writing what is new after all values were changed in the same way. -/
theorem putNew_map_values {β : Type w} (f : α → β) (t : Table κ α) (k : κ) (v : α) :
    putNew (t.map fun e => (e.1, f e.2)) k (f v) = (putNew t k v).map fun e => (e.1, f e.2) := by
  have hhas : has (t.map fun e => (e.1, f e.2)) k = has t k := by
    rw [has, has, List.any_map]
    rfl
  rw [putNew, putNew, hhas]
  split
  · rfl
  · rw [List.map_append]
    rfl

/-! ### Keeping what is new -/

/-- Elements that are kept one after another unless one kept before is like them are the elements
without those that are like an earlier one. -/
theorem foldl_keepNew (like : α → α → Bool) (items kept : List α) :
    items.foldl (fun kept a => if kept.any (like a) then kept else kept ++ [a]) kept =
      kept ++ (items.filter fun a => !kept.any (like a)).eraseDupsBy like := by
  induction items generalizing kept with
  | nil => simp [List.eraseDupsBy, List.eraseDupsBy.loop]
  | cons a items ih =>
    rw [List.foldl_cons, ih]
    by_cases hlike : kept.any (like a) = true
    · rw [if_pos hlike, List.filter_cons_of_neg (by simp [hlike])]
    · rw [if_neg hlike, List.filter_cons_of_pos (by simpa using hlike), List.eraseDupsBy_cons,
        List.filter_filter, List.append_assoc, List.singleton_append]
      refine congrArg (fun rest => kept ++ a :: List.eraseDupsBy like rest) ?_
      refine List.filter_congr fun b _ => ?_
      cases hb : like b a with
      | true => simp [hb]
      | false => simp [hb]

/-- A table that items are written into under their keys, each key once, holds of each key the first
item that has it. -/
theorem foldl_putNew_eq (key : α → κ) (items : List α) :
    items.foldl (fun t a => putNew t (key a) a) [] =
      (items.eraseDupsBy fun a b => key a == key b).map fun a => (key a, a) := by
  -- what the table holds at any time are kept items under their keys
  have hkept : ∀ kept : List α,
      items.foldl (fun t a => putNew t (key a) a) (kept.map fun a => (key a, a)) =
        (items.foldl (fun kept a => if kept.any (key a == key ·) then kept else kept ++ [a])
          kept).map fun a => (key a, a) := by
    induction items with
    | nil => exact fun kept => rfl
    | cons a items ih =>
      intro kept
      have hhas : has (kept.map fun a => (key a, a)) (key a) = kept.any (key a == key ·) := by
        rw [has, List.any_map]
        exact congrArg kept.any (funext fun b => BEq.comm)
      rw [List.foldl_cons, List.foldl_cons, ← ih, putNew, hhas]
      split
      · rfl
      · rw [List.map_append, List.map_singleton]
  refine (hkept []).trans (congrArg (List.map _) ?_)
  rw [foldl_keepNew (fun a b => key a == key b) items [], List.nil_append]
  simp

/-- What is kept of each key is the first item that has it. -/
theorem mem_eraseDupsBy_iff (key : α → κ) {items : List α} {a : α} :
    a ∈ items.eraseDupsBy (fun a b => key a == key b) ↔ items.find? (key · == key a) = some a := by
  induction hn : items.length using Nat.strongRecOn generalizing items with
  | ind n ih =>
  cases items with
  | nil => simp [List.eraseDupsBy, List.eraseDupsBy.loop]
  | cons e items =>
    have hlt : (items.filter fun b => decide ((key b == key e) = false)).length < n := by
      rw [← hn, List.length_cons]
      exact Nat.lt_succ_of_le (List.length_filter_le _ _)
    rw [List.eraseDupsBy_cons, List.mem_cons, ih _ hlt rfl, List.find?_filter]
    by_cases hkey : key e = key a
    · -- all others of this key are gone
      rw [List.find?_cons_of_pos (by simp [hkey]), Option.some.injEq, eq_comm (a := e)]
      refine or_iff_left fun hfind => ?_
      have hfound := List.find?_some hfind
      simp [hkey] at hfound
    · rw [List.find?_cons_of_neg (by simpa using hkey)]
      have hpred : ∀ b, (decide (decide ((key b == key e) = false) = true ∧
          (key b == key a) = true)) = (key b == key a) := by
        intro b
        by_cases hb : key b = key a
        · simp [hb, Ne.symm hkey]
        · simp [hb]
      simp only [hpred]
      refine or_iff_right ?_
      rintro rfl
      exact hkey rfl

end TrackedEntity.Table
