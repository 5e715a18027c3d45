import TrackedEntity.Proofs.Entity.Reports
import TrackedEntity.Proofs.Exec.Emission

/-!
# Histories

Operations leave a history of what happened, and a history tells what became of the entity:
replaying its events from the state at the start gives the state at the end, further attributes
apart (`EntityState.replay`).

`Account` says what is true of the history of any operation that does not tell the subscribers
outright: it stores mutable properties only; where the type notifies, each store is followed at once
by an emission to the handlers that are subscribed then, and there are no other emissions; a handler
is called on behalf of an emission before it, in the state to which the history has led, and the
handlers called on behalf of one emission are an initial part of its handlers, in order.

Accounts of two operations one after the other make an account of both (`Account.append`), so that
everything composed of the operations of an entity has one (`Aligned.confines_accounts`), with
bodies that run to any depth.  The one step that is more than that is an emission: its calls extend
an account one by one, each followed by the account of a body (`Account.call`,
`account_callHandlers`).
-/

namespace TrackedEntity

open Exec

/-! ### Replaying -/

namespace EntityState

/-- The state without the attributes that nobody tracks. -/
def core (e : EntityState) : EntityState := { e with extras := none }

/-- The subscribed handlers. -/
def handlers (e : EntityState) : List Handler := (e.channel.map Channel.handlers).getD []

/-- The entity after events, one after another. -/
def replay (e : EntityState) (events : List Event) : EntityState := events.foldl after e

variable (e : EntityState)

theorem handlers_of_channel {e : EntityState} {c : Channel Handler} (h : e.channel = some c) :
    e.handlers = c.handlers := by
  rw [handlers, h]
  rfl

theorem replay_append (xs ys : List Event) : e.replay (xs ++ ys) = (e.replay xs).replay ys :=
  List.foldl_append

theorem core_after (event : Event) : (e.after event).core = e.core.after event := by
  cases event <;> rfl

theorem core_replay (events : List Event) : (e.replay events).core = e.core.replay events := by
  induction events generalizing e with
  | nil => rfl
  | cons event events ih =>
    show ((e.after event).replay events).core = (e.core.after event).replay events
    rw [ih, core_after]

theorem className_replay (events : List Event) : (e.replay events).className = e.className := by
  induction events generalizing e with
  | nil => rfl
  | cons event events ih =>
    show ((e.after event).replay events).className = _
    rw [ih]
    cases event <;> rfl

variable {e} {e' : EntityState} (h : e.core = e'.core)
include h

theorem handlers_of_core : e.handlers = e'.handlers :=
  show e.core.handlers = e'.core.handlers by rw [h]

theorem mask_of_core : e.mask = e'.mask := show e.core.mask = e'.core.mask by rw [h]

theorem slots_of_core : e.slots = e'.slots := show e.core.slots = e'.core.slots by rw [h]

theorem className_of_core : e.className = e'.className :=
  show e.core.className = e'.core.className by rw [h]

theorem replay_of_core (events : List Event) :
    (e.replay events).core = (e'.replay events).core := by
  rw [core_replay, core_replay, h]

end EntityState

/-! ### Places in a history -/

theorem getElem?_append_cases {α : Type} {xs ys : List α} {j : ℕ} {a : α}
    (h : (xs ++ ys)[j]? = some a) :
    (j < xs.length ∧ xs[j]? = some a) ∨ ∃ n, j = xs.length + n ∧ ys[n]? = some a := by
  by_cases hj : j < xs.length
  · rw [List.getElem?_append_left hj] at h
    exact Or.inl ⟨hj, h⟩
  · rw [List.getElem?_append_right (by omega)] at h
    exact Or.inr ⟨j - xs.length, by omega, h⟩

theorem getElem?_append_of_left {α : Type} {xs : List α} {j : ℕ} {a : α} (h : xs[j]? = some a)
    (ys : List α) : (xs ++ ys)[j]? = some a := by
  rw [List.getElem?_append_left (List.getElem?_eq_some_iff.1 h).1, h]

theorem getElem?_append_add {α : Type} (xs ys : List α) (n : ℕ) :
    (xs ++ ys)[xs.length + n]? = ys[n]? := by
  rw [List.getElem?_append_right (by omega), Nat.add_sub_cancel_left]

theorem take_append_add {α : Type} (xs ys : List α) (n : ℕ) :
    (xs ++ ys).take (xs.length + n) = xs ++ ys.take n := by
  rw [List.take_append, List.take_of_length_le (by omega), Nat.add_sub_cancel_left]

theorem take_append_of_getElem? {α : Type} {xs : List α} {j : ℕ} {a : α} (h : xs[j]? = some a)
    (ys : List α) : (xs ++ ys).take j = xs.take j :=
  List.take_append_of_le_length (List.getElem?_eq_some_iff.1 h).1.le

/-! ### Calls on behalf of an emission -/

/-- The handler that an event called on behalf of the emission at a place. -/
def Event.calledFor? (emission : ℕ) : Event → Option Handler
  | .called k h _ _ _ => if k = emission then some h else none
  | _ => none

/-- The handlers that were called on behalf of the emission at a place, in order. -/
def calledFor (emission : ℕ) (events : List Event) : List Handler :=
  events.filterMap (Event.calledFor? emission)

theorem calledFor_append (emission : ℕ) (xs ys : List Event) :
    calledFor emission (xs ++ ys) = calledFor emission xs ++ calledFor emission ys :=
  List.filterMap_append

theorem calledFor_eq_nil {emission : ℕ} {events : List Event}
    (h : ∀ k hd sender name state, Event.called k hd sender name state ∈ events → k ≠ emission) :
    calledFor emission events = [] := by
  rw [calledFor, List.filterMap_eq_nil_iff]
  intro event hevent
  cases event with
  | called k hd sender name state => exact if_neg (h k hd sender name state hevent)
  | _ => rfl

/-! ### Accounts -/

namespace CompiledType

theorem Sound.of_core {t : CompiledType} {e e' : EntityState} (he : t.Sound e)
    (h : e.core = e'.core) : t.Sound e' := by
  have hcore : t.Sound e'.core := h ▸ he.extras none
  exact hcore.extras e'.extras

/-- Nobody can subscribe where the type does not notify. -/
theorem Sound.handlers_eq_nil {t : CompiledType} {e : EntityState} (h : t.Sound e)
    (hn : t.schema.needsNotification = false) : e.handlers = [] := by
  have hc := h.isSome_channel
  rw [hn, Option.isSome_eq_false_iff, Option.isNone_iff_eq_none] at hc
  rw [EntityState.handlers, hc]
  rfl

theorem Sound.notifies_of_split {t : CompiledType} {e : EntityState} (h : t.Sound e)
    {before after : List Handler} {hd : Handler} (hsplit : e.handlers = before ++ hd :: after) :
    t.schema.needsNotification = true := by
  by_contra hn
  rw [h.handlers_eq_nil (Bool.not_eq_true _ ▸ hn)] at hsplit
  simp at hsplit

/-- What is true of the `events` of an operation, which began in the state `e` at the place `base`
of a history and ended in the state `e'`. -/
structure Account (t : CompiledType) (base : ℕ) (e : EntityState) (events : List Event)
    (e' : EntityState) : Prop where
  /-- The events tell what became of the entity. -/
  replayed : e'.core = (e.replay events).core
  /-- Stores are stores of mutable properties. -/
  stored : ∀ {j : ℕ} {name : String} {ordinal : ℤ} {v : Value},
    events[j]? = some (Event.stored name ordinal v) →
    ∃ (i : ℕ) (p : Property), t.schema.mutable[i]? = some p ∧ p.name = name ∧ ordinal = (i : ℤ)
  /-- A store is followed by an emission to the handlers that are subscribed then. -/
  announced : t.schema.needsNotification = true →
    ∀ {j : ℕ} {name : String} {ordinal : ℤ} {v : Value},
    events[j]? = some (Event.stored name ordinal v) →
    events[j + 1]? = some (Event.emitted name (e.replay (events.take j)).handlers)
  /-- An emission follows a store, and it calls its handlers in order as far as it gets. -/
  emitted : ∀ {j : ℕ} {name : String} {hs : List Handler},
    events[j]? = some (Event.emitted name hs) →
    t.schema.needsNotification = true ∧
    (∃ (i : ℕ) (ordinal : ℤ) (v : Value),
      j = i + 1 ∧ events[i]? = some (Event.stored name ordinal v)) ∧
    calledFor (base + j) events <+: hs
  /-- A handler is called by an emission, with the entity in the state to which the events led. -/
  called : ∀ {j k : ℕ} {h : Handler} {sender : Value} {name : String} {state : EntityState},
    events[j]? = some (Event.called k h sender name state) →
    sender = .entity e.className ∧ state.core = (e.replay (events.take j)).core ∧
    ∃ (n : ℕ) (hs : List Handler), n < j ∧ k = base + n ∧ events[n]? = some (Event.emitted name hs)

namespace Account

variable {t : CompiledType} {base : ℕ} {e e' e'' : EntityState} {events xs ys : List Event}

/-- An operation that left nothing in the history. -/
theorem nil (h : e'.core = e.core) : t.Account base e [] e' where
  replayed := h
  stored h := by simp at h
  announced _ _ _ _ _ h := by simp at h
  emitted h := by simp at h
  called h := by simp at h

/-- A single event that is neither a store nor an emission nor a call. -/
theorem single {event : Event} (hs : ∀ name ordinal v, event ≠ .stored name ordinal v)
    (he : ∀ name hs, event ≠ .emitted name hs)
    (hc : ∀ k h sender name state, event ≠ .called k h sender name state) :
    t.Account base e [event] (e.after event) where
  replayed := rfl
  stored h := absurd (List.mem_singleton.1 (List.mem_of_getElem? h)).symm (hs _ _ _)
  announced _ _ _ _ _ h := absurd (List.mem_singleton.1 (List.mem_of_getElem? h)).symm (hs _ _ _)
  emitted h := absurd (List.mem_singleton.1 (List.mem_of_getElem? h)).symm (he _ _)
  called h := absurd (List.mem_singleton.1 (List.mem_of_getElem? h)).symm (hc _ _ _ _ _)

/-- The emissions that calls belong to are among the events. -/
theorem tag_bounds (h : t.Account base e events e') {k : ℕ} {hd : Handler} {sender : Value}
    {name : String} {state : EntityState} (hmem : Event.called k hd sender name state ∈ events) :
    base ≤ k ∧ k < base + events.length := by
  obtain ⟨j, hj⟩ := List.mem_iff_getElem?.1 hmem
  obtain ⟨-, -, n, hs, -, rfl, hn⟩ := h.called hj
  have hlt := (List.getElem?_eq_some_iff.1 hn).1
  omega

/-- The entity keeps its class. -/
theorem className_eq (h : t.Account base e events e') : e'.className = e.className := by
  rw [EntityState.className_of_core h.replayed, EntityState.className_replay]

/-- **Accounts of two operations one after the other make an account of both.** -/
theorem append (h : t.Account base e xs e') (h' : t.Account (base + xs.length) e' ys e'') :
    t.Account base e (xs ++ ys) e'' := by
  have hmiddle : ∀ zs, (e'.replay zs).core = (e.replay (xs ++ zs)).core := by
    intro zs
    rw [EntityState.replay_append]
    exact EntityState.replay_of_core h.replayed zs
  refine ⟨h'.replayed.trans (hmiddle ys), ?_, ?_, ?_, ?_⟩
  · -- the stores
    intro j name ordinal v hj
    rcases getElem?_append_cases hj with ⟨-, hj⟩ | ⟨n, rfl, hn⟩
    · exact h.stored hj
    · exact h'.stored hn
  · -- the emissions that follow them
    intro hnotifies j name ordinal v hj
    rcases getElem?_append_cases hj with ⟨-, hj⟩ | ⟨n, rfl, hn⟩
    · rw [take_append_of_getElem? hj]
      exact getElem?_append_of_left (h.announced hnotifies hj) ys
    · rw [take_append_add, ← EntityState.handlers_of_core (hmiddle _), Nat.add_assoc,
        getElem?_append_add]
      exact h'.announced hnotifies hn
  · -- the calls of an emission are all on its own side
    intro j name hs hj
    rcases getElem?_append_cases hj with ⟨hlt, hj⟩ | ⟨n, rfl, hn⟩
    · obtain ⟨hnotifies, ⟨i, ordinal, v, hij, hi⟩, hprefix⟩ := h.emitted hj
      refine ⟨hnotifies, ⟨i, ordinal, v, hij, getElem?_append_of_left hi ys⟩, ?_⟩
      have hlater : calledFor (base + j) ys = [] :=
        calledFor_eq_nil fun k hd sender name state hmem => by
          have := h'.tag_bounds hmem
          omega
      rw [calledFor_append, hlater, List.append_nil]
      exact hprefix
    · obtain ⟨hnotifies, ⟨i, ordinal, v, hij, hi⟩, hprefix⟩ := h'.emitted hn
      refine ⟨hnotifies, ⟨xs.length + i, ordinal, v, by omega, ?_⟩, ?_⟩
      · rw [getElem?_append_add, hi]
      · have hearlier : calledFor (base + (xs.length + n)) xs = [] :=
          calledFor_eq_nil fun k hd sender name state hmem => by
            have := h.tag_bounds hmem
            omega
        rw [calledFor_append, hearlier, List.nil_append, ← Nat.add_assoc]
        exact hprefix
  · -- the states in which handlers are called
    intro j k hd sender name state hj
    rcases getElem?_append_cases hj with ⟨-, hj⟩ | ⟨n, rfl, hn⟩
    · obtain ⟨hsender, hstate, i, hs, hij, hk, hi⟩ := h.called hj
      rw [take_append_of_getElem? hj]
      exact ⟨hsender, hstate, i, hs, hij, hk, getElem?_append_of_left hi ys⟩
    · obtain ⟨hsender, hstate, i, hs, hij, hk, hi⟩ := h'.called hn
      rw [take_append_add, ← hmiddle, hsender, h.className_eq]
      refine ⟨rfl, hstate, xs.length + i, hs, by omega, by omega, ?_⟩
      rw [getElem?_append_add, hi]

/-- Every state that the events lead to is sound, if the first one is. -/
theorem sound_replay (h : t.Account base e events e') (he : t.Sound e) (n : ℕ) :
    t.Sound (e.replay (events.take n)) := by
  induction n with
  | zero => exact he
  | succ n ih =>
    rw [List.take_add_one, EntityState.replay_append]
    cases hn : events[n]? with
    | none => exact ih
    | some event =>
      cases event with
      | stored name ordinal v =>
        obtain ⟨i, p, hp, -, rfl⟩ := h.stored hn
        exact ih.stored (lt_mutableCount hp) name v
      | edited change => exact ih.edited change
      | _ => exact ih

theorem sound (h : t.Account base e events e') (he : t.Sound e) : t.Sound e' := by
  have hend := h.sound_replay he events.length
  rw [List.take_length] at hend
  exact hend.of_core h.replayed.symm

/-! ### Stores and emissions -/

/-- A store where nobody is told. -/
theorem store (hn : t.schema.needsNotification = false) {i : ℕ} {p : Property}
    (hp : t.schema.mutable[i]? = some p) (v : Value) :
    t.Account base e [.stored p.name i v] (e.after (.stored p.name i v)) where
  replayed := rfl
  stored h := by
    obtain ⟨rfl, rfl, -⟩ := Event.stored.inj (List.mem_singleton.1 (List.mem_of_getElem? h))
    exact ⟨i, p, hp, rfl, rfl⟩
  announced h := by
    rw [hn] at h
    cases h
  emitted h := by cases List.mem_singleton.1 (List.mem_of_getElem? h)
  called h := by cases List.mem_singleton.1 (List.mem_of_getElem? h)

/-- A store and the beginning of the emission that follows it. -/
theorem store_emit (hn : t.schema.needsNotification = true) {i : ℕ} {p : Property}
    (hp : t.schema.mutable[i]? = some p) (v : Value) :
    t.Account base e [.stored p.name i v, .emitted p.name e.handlers]
      (e.after (.stored p.name i v)) := by
  refine ⟨rfl, ?_, ?_, ?_, ?_⟩
  · intro j name ordinal v' h
    match j with
    | 0 =>
      obtain ⟨rfl, rfl, -⟩ := Event.stored.inj (Option.some.inj h)
      exact ⟨i, p, hp, rfl, rfl⟩
    | 1 => cases Option.some.inj h
    | _ + 2 => cases h
  · intro _ j name ordinal v' h
    match j with
    | 0 =>
      obtain ⟨rfl, -, -⟩ := Event.stored.inj (Option.some.inj h)
      rfl
    | 1 => cases Option.some.inj h
    | _ + 2 => cases h
  · intro j name hs h
    match j with
    | 0 => cases Option.some.inj h
    | 1 =>
      obtain ⟨rfl, rfl⟩ := Event.emitted.inj (Option.some.inj h)
      exact ⟨hn, ⟨0, i, v, rfl, rfl⟩, List.nil_prefix⟩
    | _ + 2 => cases h
  · intro j k hd sender name state h
    match j with
    | 0 => cases Option.some.inj h
    | 1 => cases Option.some.inj h
    | _ + 2 => cases h

/-- **One more call** on behalf of an emission that has called its first handlers. -/
theorem call (h : t.Account base e events e') {n : ℕ} {name : String} {hd : Handler}
    {before after : List Handler} (hn : events[n]? = some (.emitted name (before ++ hd :: after)))
    (hbefore : calledFor (base + n) events = before) :
    t.Account base e (events ++ [.called (base + n) hd (.entity e.className) name e']) e' := by
  have hlast : ∀ {j : ℕ} {event event' : Event}, (events ++ [event])[j]? = some event' →
      events[j]? = some event' ∨ j = events.length ∧ event' = event := by
    intro j event event' hj
    rcases getElem?_append_cases hj with ⟨-, hj⟩ | ⟨k, rfl, hk⟩
    · exact Or.inl hj
    · match k with
      | 0 => exact Or.inr ⟨rfl, (Option.some.inj hk).symm⟩
      | _ + 1 => cases hk
  refine ⟨?_, ?_, ?_, ?_, ?_⟩
  · rw [EntityState.replay_append]
    exact h.replayed
  · intro j _ _ _ hj
    rcases hlast hj with hj | ⟨-, hj⟩
    · exact h.stored hj
    · cases hj
  · intro hnotifies j _ _ _ hj
    rcases hlast hj with hj | ⟨-, hj⟩
    · rw [take_append_of_getElem? hj]
      exact getElem?_append_of_left (h.announced hnotifies hj) _
    · cases hj
  · intro j name' hs hj
    rcases hlast hj with hj | ⟨-, hj⟩
    · obtain ⟨hnotifies, ⟨i, ordinal, v, hij, hi⟩, hprefix⟩ := h.emitted hj
      refine ⟨hnotifies, ⟨i, ordinal, v, hij, getElem?_append_of_left hi _⟩, ?_⟩
      rw [calledFor_append]
      by_cases hjn : n = j
      · -- the emission that calls has one handler more
        subst hjn
        obtain ⟨-, rfl⟩ := Event.emitted.inj (Option.some.inj (hn.symm.trans hj))
        rw [hbefore]
        simp [calledFor, Event.calledFor?]
      · have hother : calledFor (base + j)
            [.called (base + n) hd (.entity e.className) name e'] = [] := by
          simp [calledFor, Event.calledFor?, hjn]
        rw [hother, List.append_nil]
        exact hprefix
    · cases hj
  · intro j k hd' sender name' state hj
    rcases hlast hj with hj | ⟨rfl, hevent⟩
    · obtain ⟨hsender, hstate, i, hs, hij, hk, hi⟩ := h.called hj
      rw [take_append_of_getElem? hj]
      exact ⟨hsender, hstate, i, hs, hij, hk, getElem?_append_of_left hi _⟩
    · obtain ⟨rfl, -, rfl, rfl, rfl⟩ := Event.called.inj hevent
      rw [List.take_left]
      exact ⟨rfl, h.replayed, n, _, (List.getElem?_eq_some_iff.1 hn).1, rfl,
        getElem?_append_of_left hn _⟩

/-- A call and the account of the body that it runs: the emission has called one handler more, as
the body calls handlers on behalf of later emissions only. -/
theorem call_body (h : t.Account base e events e') {n : ℕ} {name : String} {hd : Handler}
    {before after : List Handler} (hn : events[n]? = some (.emitted name (before ++ hd :: after)))
    (hbefore : calledFor (base + n) events = before) {event : Event}
    (hevent : event = .called (base + n) hd (.entity e.className) name e')
    (hxs : t.Account (base + (events.length + 1)) e' xs e'') :
    t.Account base e (events ++ event :: xs) e'' ∧
      calledFor (base + n) (events ++ event :: xs) = before ++ [hd] := by
  subst hevent
  rw [List.append_cons]
  have hcall := h.call hn hbefore
  have hlength : (events ++ [Event.called (base + n) hd (.entity e.className) name e']).length =
      events.length + 1 := List.length_append
  refine ⟨hcall.append (by rw [hlength]; exact hxs), ?_⟩
  have hbody : calledFor (base + n) xs = [] :=
    calledFor_eq_nil fun k _ _ _ _ hmem => by
      have hk := hxs.tag_bounds hmem
      have hlt := (List.getElem?_eq_some_iff.1 hn).1
      omega
  rw [calledFor_append, hbody, calledFor_append, hbefore, List.append_nil]
  simp [calledFor, Event.calledFor?]

end Account

/-! ### Everything has an account -/

/-- Whether what happened between two moments has an account, if the entity is sound at first. -/
def Accounts (t : CompiledType) (m m' : Moment) : Prop :=
  t.Sound m.entity → ∃ events, m'.history = m.history ++ events ∧
    t.Account m.history.length m.entity events m'.entity

variable {t : CompiledType} {run : Runner}

theorem frames_accounts : Frames t.Accounts where
  trans {m₁ m₂ m₃} h₁₂ h₂₃ hs := by
    obtain ⟨xs, hx, hxs⟩ := h₁₂ hs
    obtain ⟨ys, hy, hys⟩ := h₂₃ (hxs.sound hs)
    rw [hx, List.length_append] at hys
    exact ⟨xs ++ ys, by rw [hy, hx, List.append_assoc], hxs.append hys⟩
  quiet m _ _ _ := ⟨[], (List.append_nil _).symm, .nil rfl⟩
  log m v _ := ⟨[.logged v], rfl, .single nofun nofun nofun⟩
  edit m change _ := ⟨[.edited change], rfl, .single nofun nofun nofun⟩

/-- **The calls of an emission** extend its account, and end as calls of handlers do.  The emission
may be to more handlers than are called. -/
theorem account_callHandlers (hrun : ∀ body args m, t.Accounts m ((run body args).run m).2)
    {past : List Event} {e : EntityState} (he : t.Sound e) {n : ℕ} {name : String}
    {hs before after : List Handler} {m m' : Moment} {r : Except Halt Unit} {events : List Event}
    (hpast : m.history = past ++ events) (h : t.Account past.length e events m.entity)
    (hn : events[n]? = some (.emitted name (before ++ hs ++ after)))
    (hbefore : calledFor (past.length + n) events = before)
    (hr : (callHandlers run (past.length + n) (.entity e.className) name hs).run m = (r, m')) :
    ∃ events' called, m'.history = past ++ (events ++ events') ∧
      t.Account past.length e (events ++ events') m'.entity ∧
      CallsEnd run (past.length + n) (.entity e.className) name hs m called r m' ∧
      calledFor (past.length + n) (events ++ events') = before ++ called := by
  induction hs generalizing before m events with
  | nil =>
    obtain ⟨rfl, rfl⟩ := Prod.mk.inj hr
    refine ⟨[], [], ?_, ?_, .returned (.nil m), ?_⟩
    · rw [List.append_nil]
      exact hpast
    · rw [List.append_nil]
      exact h
    · rw [List.append_nil, List.append_nil]
      exact hbefore
  | cons hd hs ih =>
    -- the call itself, then what the body of the handler does
    let event : Event := .called (past.length + n) hd (.entity e.className) name m.entity
    obtain ⟨xs, hx, hxs⟩ := hrun hd.body [.entity e.className, .str name] (m.after event)
      (h.sound he)
    have hlength : (m.after event).history.length = past.length + (events.length + 1) := by
      show (m.history ++ [event]).length = _
      rw [hpast, List.length_append, List.length_append, List.length_singleton, Nat.add_assoc]
    rw [hlength] at hxs
    rw [List.append_assoc, List.cons_append] at hn
    obtain ⟨hboth, hcalled⟩ := h.call_body hn hbefore (show event = _ from rfl) hxs
    have hhistory : ((run hd.body [.entity e.className, .str name]).run (m.after event)).2.history =
        past ++ (events ++ (event :: xs)) := by
      rw [hx]
      show m.history ++ [event] ++ xs = _
      rw [hpast]
      simp only [List.append_assoc, List.singleton_append]
    rw [run_callHandlers_cons] at hr
    cases hb : (run hd.body [.entity e.className, .str name]).run (m.after event) with
    | mk r₁ m₁ =>
      rw [hb] at hboth hhistory
      rw [show (run hd.body [.entity e.className, .str name]).run (m.after _) = (r₁, m₁) from hb]
        at hr
      cases r₁ with
      | error f =>
        obtain ⟨rfl, rfl⟩ := Prod.mk.inj hr
        have hsplit : hd :: hs = [] ++ hd :: hs := rfl
        exact ⟨event :: xs, [hd], hhistory, hboth, .halted hsplit (.nil m) hb, hcalled⟩
      | ok w =>
        have hn' : (events ++ (event :: xs))[n]? =
            some (.emitted name (before ++ [hd] ++ hs ++ after)) := by
          rw [List.append_assoc, List.append_assoc, List.singleton_append]
          exact getElem?_append_of_left hn _
        obtain ⟨ys, called, hy, hys, hend, hcalled'⟩ := ih hhistory hboth hn' hcalled hr
        rw [List.append_assoc] at hy hys hcalled'
        rw [List.append_assoc, List.singleton_append] at hcalled'
        exact ⟨event :: xs ++ ys, hd :: called, hy, hys, .cons hb hend, hcalled'⟩

/-- A store, the beginning of the emission that follows it, and the first calls of this one. -/
theorem account_announced (hrun : ∀ body args m, t.Accounts m ((run body args).run m).2)
    {m m' : Moment} {r : Except Halt Unit} (h : t.Sound m.entity)
    (hn : t.schema.needsNotification = true) {i : ℕ} {p : Property}
    (hp : t.schema.mutable[i]? = some p) {v : Value} {hs after : List Handler}
    (hsplit : m.entity.handlers = hs ++ after)
    (hr : (callHandlers run (m.history.length + 1) m.self p.name hs).run
      ((m.after (.stored p.name i v)).after (.emitted p.name m.entity.handlers)) = (r, m')) :
    ∃ events called, m'.history = m.history ++ .stored p.name i v :: events ∧
      t.Account m.history.length m.entity (.stored p.name i v :: events) m'.entity ∧
      CallsEnd run (m.history.length + 1) m.self p.name hs
        ((m.after (.stored p.name i v)).after (.emitted p.name m.entity.handlers)) called r m' ∧
      calledFor (m.history.length + 1) events = called := by
  have hstart : t.Account m.history.length m.entity _ _ := .store_emit hn hp v
  have hpast : ((m.after (.stored p.name i v)).after
      (.emitted p.name m.entity.handlers)).history =
      m.history ++ [.stored p.name i v, .emitted p.name m.entity.handlers] := by
    simp [Moment.after]
  have hemitted : [Event.stored p.name i v, .emitted p.name m.entity.handlers][1]? =
      some (.emitted p.name ([] ++ hs ++ after)) := by
    rw [List.nil_append, ← hsplit]
    rfl
  obtain ⟨events, called, hevents, haccount, hend, hcalled⟩ :=
    account_callHandlers hrun h hpast hstart hemitted rfl hr
  exact ⟨.emitted p.name m.entity.handlers :: events, called, hevents, haccount, hend, hcalled⟩

/-- **The rest of an assignment** stores first, and then the handlers are called that are subscribed
then, if the type notifies. -/
theorem Aligned.account_finish (ht : t.Aligned)
    (hrun : ∀ body args m, t.Accounts m ((run body args).run m).2) {m m' : Moment}
    {r : Except Halt Unit} (h : t.Sound m.entity) {i : ℕ} {p : Property}
    (hp : t.schema.mutable[i]? = some p) {v : Value}
    (hr : ((p.compiledSetter t.schema.needsNotification).finish run v).run m = (r, m')) :
    ∃ events, m'.history = m.history ++ .stored p.name i v :: events ∧
      t.Account m.history.length m.entity (.stored p.name i v :: events) m'.entity ∧
      (t.schema.needsNotification = true → ∃ called,
        CallsEnd run (m.history.length + 1) m.self p.name m.entity.handlers
          ((m.after (.stored p.name i v)).after (.emitted p.name m.entity.handlers)) called r m' ∧
        calledFor (m.history.length + 1) events = called) ∧
      (t.schema.needsNotification = false → r = .ok () ∧ events = []) := by
  rw [ht.run_finish h hp] at hr
  cases hn : t.schema.needsNotification with
  | false =>
    rw [if_neg (by simp [hn])] at hr
    obtain ⟨rfl, rfl⟩ := Prod.mk.inj hr
    exact ⟨[], rfl, .store hn hp v, fun h => absurd h Bool.false_ne_true, fun _ => ⟨rfl, rfl⟩⟩
  | true =>
    obtain ⟨c, hc⟩ := h.exists_channel hn
    have hc' : (m.after (.stored p.name i v)).entity.channel = some c := hc
    have hhandlers : m.entity.handlers = c.handlers := EntityState.handlers_of_channel hc
    rw [if_pos hn, run_notify hc', Moment.length_history_after, ← hhandlers] at hr
    obtain ⟨events, called, hevents, haccount, hend, hcalled⟩ :=
      account_announced hrun h hn hp (List.append_nil _).symm hr
    exact ⟨events, hevents, haccount, fun _ => ⟨called, hend, hcalled⟩,
      fun h => absurd h.symm Bool.false_ne_true⟩

/-- **Whatever is composed of the operations of an entity has an account.** -/
theorem Aligned.confines_accounts (ht : t.Aligned) (handlers : Table String HandlerSpec) :
    (t.scene handlers).Confines t.Accounts where
  toFrames := frames_accounts
  assign := by
    intro run _ hrun s hs v m
    obtain ⟨i, p, hp, rfl⟩ := ht.sets_iff.1 hs
    refine frames_accounts.assign hrun (fun m' hm' => ?_) m
    obtain ⟨events, hevents, haccount, -⟩ := ht.account_finish hrun hm' hp (v := v) rfl
    exact ⟨_, hevents, haccount⟩

end CompiledType

end TrackedEntity
