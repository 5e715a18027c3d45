import TrackedEntity.Proofs.Entity.Emission

/-!
# Assignments within assignments

Hooks and handlers may assign, subscribe and halt, on the entity that they were called for and to
any depth.  This module says what is lost by it: nothing.

What an operation does is read off its account and its journal (`CompiledType.LosesNothing`).  The
mask holds exactly what it held before and what was stored since (`Account.has_replay`), and a slot
holds what was stored there last (`Account.slots_replay`, `Account.slot_of_last`); this is so at
every place of the history, hence in each state in which a handler is called
(`Account.reports_at_call`).  Each emission runs the bodies of its handlers (`Journal.exists_runs`).

An assignment itself is decided first, perhaps by a hook that assigns as well
(`Setter.run_goesAhead_of_hook`).  What follows if it goes ahead begins with its own store, whatever
the hook did, and goes on with the bodies of the handlers that are subscribed then, each of which
finds the property marked (`CompiledType.AssignsOnce`).
-/

namespace TrackedEntity

open Exec

namespace CompiledType

variable {t : CompiledType} {base : ℕ} {e e' : EntityState} {events : List Event}

/-! ### What is reported -/

/-- Whether the property of an ordinal is marked in some state, so that the entity is found changed
in it and it is found when it is read by name. -/
structure Reports (t : CompiledType) (state : EntityState) (i : ℕ) (name : String) : Prop where
  marked : state.mask.has i = true
  changed : ∀ handlers past serial,
    ((t.scene handlers).hasChanges [.str name]).run ⟨state, past, serial⟩ =
      (.ok true, ⟨state, past, serial⟩)
  found : ∃ v, state.slots[i]? = some v ∧ ∀ handlers run past serial,
    ((t.scene handlers).tryGet run (.str name)).run ⟨state, past, serial⟩ =
      (.ok (some v), ⟨state, past, serial⟩)

theorem Sound.reports {state : EntityState} (h : t.Sound state) (ht : t.Aligned) {i : ℕ}
    {p : Property} (hp : t.schema.mutable[i]? = some p) (hmarked : state.mask.has i = true) :
    t.Reports state i p.name := by
  obtain ⟨v, hv⟩ := h.exists_slot hp
  refine ⟨hmarked, fun handlers past serial => ?_, v, hv, fun handlers run past serial => ?_⟩
  · have hchanged : ((t.scene handlers).hasChanges [.str p.name]).run ⟨state, past, serial⟩ =
        (.ok (state.mask.has i), ⟨state, past, serial⟩) := run_hasChanges_of_name ht h hp
    rw [hchanged, hmarked]
  · have hfound : ((t.scene handlers).tryGet run (.str p.name)).run ⟨state, past, serial⟩ =
        (.ok (if state.mask.has i then some v else none), ⟨state, past, serial⟩) :=
      run_tryGet ht h hp hv
    rw [hfound, if_pos hmarked]

namespace Account

/-! ### What was stored -/

/-- **The mask holds what it held before and what was stored since.** -/
theorem has_replay (h : t.Account base e events e') (he : t.Sound e) (n i : ℕ) :
    (e.replay (events.take n)).mask.has i = true ↔
      e.mask.has i = true ∨
        ∃ (j : ℕ) (name : String) (v : Value), j < n ∧ events[j]? = some (.stored name i v) := by
  induction n with
  | zero =>
    refine ⟨Or.inl, fun hor => ?_⟩
    rcases hor with hi | ⟨j, _, _, hj, -⟩
    · exact hi
    · omega
  | succ n ih =>
    rw [List.take_add_one, EntityState.replay_append]
    -- one more event may be one more store
    have hmore : (∃ (j : ℕ) (name : String) (v : Value), j < n + 1 ∧
          events[j]? = some (.stored name i v)) ↔
        (∃ (j : ℕ) (name : String) (v : Value), j < n ∧ events[j]? = some (.stored name i v)) ∨
          ∃ name v, events[n]? = some (.stored name (i : ℤ) v) := by
      constructor
      · rintro ⟨j, name, v, hj, hstored⟩
        rcases Nat.lt_succ_iff_lt_or_eq.1 hj with hj | rfl
        · exact Or.inl ⟨j, name, v, hj, hstored⟩
        · exact Or.inr ⟨name, v, hstored⟩
      · rintro (⟨j, name, v, hj, hstored⟩ | ⟨name, v, hstored⟩)
        · exact ⟨j, name, v, by omega, hstored⟩
        · exact ⟨n, name, v, by omega, hstored⟩
    rw [hmore, ← or_assoc, ← ih]
    cases hn : events[n]? with
    | none => simp [EntityState.replay]
    | some event =>
      cases event with
      | stored name ordinal v =>
        obtain ⟨k, p, hp, -, rfl⟩ := h.stored hn
        have hroom := (h.sound_replay he n).hasRoom (lt_mutableCount hp)
        show ((e.replay (events.take n)).mask.insert k).has i = true ↔ _
        rw [Mask.has_insert hroom, Bool.or_eq_true, decide_eq_true_eq, or_comm]
        refine or_congr Iff.rfl ⟨?_, ?_⟩
        · rintro rfl
          exact ⟨name, v, rfl⟩
        · rintro ⟨_, _, heq⟩
          obtain ⟨-, hk, -⟩ := Event.stored.inj (Option.some.inj heq)
          exact (Int.ofNat.inj hk).symm
      | _ => simp [EntityState.replay, EntityState.after]

/-- A slot stays as it is while nothing is stored there. -/
theorem slots_replay (h : t.Account base e events e') {i first n : ℕ} (hle : first ≤ n)
    (hi : ∀ j name v, first ≤ j → j < n → events[j]? ≠ some (.stored name (i : ℤ) v)) :
    (e.replay (events.take n)).slots[i]? = (e.replay (events.take first)).slots[i]? := by
  induction n, hle using Nat.le_induction with
  | base => rfl
  | succ n hle ih =>
    rw [← ih fun j name v hj hjn => hi j name v hj (by omega), List.take_add_one,
      EntityState.replay_append]
    cases hn : events[n]? with
    | none => rfl
    | some event =>
      cases event with
      | stored name ordinal v =>
        obtain ⟨k, p, hp, -, rfl⟩ := h.stored hn
        have hki : k ≠ i := by
          rintro rfl
          exact hi n name v hle (by omega) hn
        exact List.getElem?_set_ne hki
      | _ => rfl

/-- **A slot holds what was stored there last.** -/
theorem slot_of_last (h : t.Account base e events e') (he : t.Sound e) {i j n : ℕ} {name : String}
    {v : Value} (hj : events[j]? = some (.stored name (i : ℤ) v)) (hjn : j < n)
    (hlast : ∀ j' name v, j < j' → j' < n → events[j']? ≠ some (.stored name (i : ℤ) v)) :
    (e.replay (events.take n)).slots[i]? = some v := by
  have hrest : (e.replay (events.take n)).slots[i]? = (e.replay (events.take (j + 1))).slots[i]? :=
    h.slots_replay hjn fun j' name v hj' hn => hlast j' name v (by omega) hn
  rw [hrest, List.take_add_one, EntityState.replay_append, hj]
  obtain ⟨k, p, hp, -, hk⟩ := h.stored hj
  obtain rfl : i = k := Int.ofNat.inj hk
  have hlt : i < (e.replay (events.take j)).slots.length := by
    rw [(h.sound_replay he j).length_slots]
    exact lt_mutableCount hp
  exact List.getElem?_set_self hlt

/-- So it does in the end. -/
theorem has_end (h : t.Account base e events e') (he : t.Sound e) (i : ℕ) :
    e'.mask.has i = true ↔
      e.mask.has i = true ∨ ∃ name v, Event.stored name (i : ℤ) v ∈ events := by
  have hall := h.has_replay he events.length i
  rw [List.take_length, ← EntityState.mask_of_core h.replayed] at hall
  rw [hall]
  refine or_congr Iff.rfl ⟨?_, ?_⟩
  · rintro ⟨j, name, v, -, hj⟩
    exact ⟨name, v, List.mem_of_getElem? hj⟩
  · rintro ⟨name, v, hmem⟩
    obtain ⟨j, hj⟩ := List.mem_iff_getElem?.1 hmem
    exact ⟨j, name, v, (List.getElem?_eq_some_iff.1 hj).1, hj⟩

theorem slot_end_of_none (h : t.Account base e events e') {i : ℕ}
    (hi : ∀ name v, Event.stored name (i : ℤ) v ∉ events) : e'.slots[i]? = e.slots[i]? := by
  have hall := h.slots_replay (Nat.zero_le events.length) fun j name v _ _ hj =>
    hi name v (List.mem_of_getElem? hj)
  rw [List.take_length, ← EntityState.slots_of_core h.replayed] at hall
  exact hall

theorem slot_end_of_last (h : t.Account base e events e') (he : t.Sound e) {i j : ℕ} {name : String}
    {v : Value} (hj : events[j]? = some (.stored name (i : ℤ) v))
    (hlast : ∀ (j' : ℕ) name v, j < j' → events[j']? ≠ some (.stored name (i : ℤ) v)) :
    e'.slots[i]? = some v := by
  have hall := h.slot_of_last he hj (List.getElem?_eq_some_iff.1 hj).1
    fun j' name v hj' _ => hlast j' name v hj'
  rw [List.take_length, ← EntityState.slots_of_core h.replayed] at hall
  exact hall

/-! ### What handlers see -/

/-- **A handler finds the property marked** that it is called for, and so finds the entity changed
and the property reported, whatever else happened before the call. -/
theorem reports_at_call (h : t.Account base e events e') (ht : t.Aligned) (he : t.Sound e)
    {j k : ℕ} {hd : Handler} {sender : Value} {name : String} {state : EntityState}
    (hj : events[j]? = some (.called k hd sender name state)) :
    ∃ (i : ℕ) (p : Property), t.schema.mutable[i]? = some p ∧ p.name = name ∧
      t.Reports state i name := by
  obtain ⟨-, hstate, n, hs, hnj, -, hn⟩ := h.called hj
  obtain ⟨-, ⟨i, ordinal, v, hni, hi⟩, -⟩ := h.emitted hn
  obtain ⟨o, p, hp, rfl, rfl⟩ := h.stored hi
  have hsound : t.Sound state := (h.sound_replay he j).of_core hstate.symm
  have hmarked : state.mask.has o = true := by
    rw [EntityState.mask_of_core hstate, h.has_replay he]
    exact Or.inr ⟨i, p.name, v, by omega, hi⟩
  exact ⟨o, p, hp, rfl, hsound.reports ht hp hmarked⟩

end Account

end CompiledType

/-! ### Deciding and storing -/

/-- Where a setter has a hook, the hook alone decides, by whether its answer counts as true. -/
theorem Setter.run_goesAhead_of_hook {s : Setter} {hook : Hook} (hs : s.hook = some hook)
    (run : Runner) (v : Value) (m : Moment) :
    (s.goesAhead run v).run m = match (hook.call run [m.self, v]).run m with
      | (.ok w, m') => (.ok (m'.counts w), m')
      | (.error h, m') => (.error h, m') := by
  unfold Setter.goesAhead
  simp only [hs]
  rw [run_bind_ok (run_self m), run_bind]
  cases hr : (hook.call run [m.self, v]).run m with
  | mk r m' =>
    cases r with
    | ok w => exact run_isTrue m' w
    | error f => rfl

/-- The moment after a store, when its emission has begun. -/
def Setter.announced (s : Setter) (v : Value) (m : Moment) : Moment :=
  (m.after (.stored s.name s.ordinal v)).after (.emitted s.name m.entity.handlers)

namespace CompiledType

variable {t : CompiledType}

/-! ### Operations -/

/-- What is true of any operation on an entity that leads from the state `e` to the state `e'` and
adds `events` to the `past`, whether it returns or halts. -/
structure LosesNothing (t : CompiledType) (handlers : Table String HandlerSpec) (past : List Event)
    (e : EntityState) (events : List Event) (e' : EntityState) : Prop where
  /-- What was marked stays marked, and what was stored on the way is marked from then on. -/
  marked : ∀ (i n : ℕ), (e.mask.has i = true ∨
      ∃ (j : ℕ) (name : String) (v : Value), j < n ∧ events[j]? = some (.stored name i v)) →
    (e.replay (events.take n)).mask.has i = true
  /-- So it is to the end. -/
  marked_end : ∀ i : ℕ, (e.mask.has i = true ∨ ∃ name v, .stored name (i : ℤ) v ∈ events) →
    e'.mask.has i = true
  /-- Where the type notifies, each store is followed by an emission to the handlers that are
  subscribed then. -/
  announced : t.schema.needsNotification = true →
    ∀ (j : ℕ) name ordinal v, events[j]? = some (.stored name ordinal v) →
    events[j + 1]? = some (.emitted name (e.replay (events.take j)).handlers)
  /-- No emission is without its store.  It runs the bodies of its handlers, in order, up to the
  first one that halts. -/
  emitted : ∀ (j : ℕ) name hs, events[j]? = some (.emitted name hs) →
    t.schema.needsNotification = true ∧
    (∃ (i : ℕ) (ordinal : ℤ) (v : Value),
      j = i + 1 ∧ events[i]? = some (.stored name ordinal v)) ∧
    calledFor (past.length + j) events <+: hs ∧
    ∃ last, (t.scene handlers).EmissionRuns past events j last name hs
  /-- Each handler is called by an emission, in the state to which the events have led, and there it
  finds the property marked. -/
  called : ∀ (j : ℕ) k hd sender name state, events[j]? = some (.called k hd sender name state) →
    sender = .entity e.className ∧ state.core = (e.replay (events.take j)).core ∧
    (∃ (n : ℕ) (hs : List Handler),
      n < j ∧ k = past.length + n ∧ events[n]? = some (.emitted name hs)) ∧
    ∃ (i : ℕ) (p : Property), t.schema.mutable[i]? = some p ∧ p.name = name ∧
      t.Reports state i name
  /-- The events account for the state at the end. -/
  replayed : e'.core = (e.replay events).core
  /-- A slot where nothing was stored is as before. -/
  slot_of_none : ∀ i : ℕ, (∀ name v, .stored name (i : ℤ) v ∉ events) →
    e'.slots[i]? = e.slots[i]?
  /-- Any other one holds what was stored there last. -/
  slot_of_last : ∀ (i j : ℕ) name v, events[j]? = some (.stored name (i : ℤ) v) →
    (∀ (j' : ℕ) name v, j < j' → events[j']? ≠ some (.stored name (i : ℤ) v)) →
    e'.slots[i]? = some v

/-- Operations that keep to accounts and journals lose nothing. -/
theorem losesNothing (ht : t.Aligned) {handlers : Table String HandlerSpec} {m m' : Moment}
    (he : t.Sound m.entity) {events : List Event} (hevents : m'.history = m.history ++ events)
    (haccount : t.Account m.history.length m.entity events m'.entity)
    (hjournals : (t.scene handlers).Journals m m') :
    t.LosesNothing handlers m.history m.entity events m'.entity := by
  refine ⟨fun i n => (haccount.has_replay he n i).2, fun i => (haccount.has_end he i).2,
    fun hn _ _ _ _ hj => haccount.announced hn hj, ?_, ?_, haccount.replayed,
    fun i hi => haccount.slot_end_of_none hi,
    fun i j name v hj hlast => haccount.slot_end_of_last he hj hlast⟩
  · intro j name hs hj
    obtain ⟨hn, hstore, hprefix⟩ := haccount.emitted hj
    refine ⟨hn, hstore, hprefix, ?_⟩
    -- the journal of the operation is about the same events
    obtain ⟨c, hc⟩ := he.exists_channel hn
    obtain ⟨events', c', hevents', -, hjournal⟩ := hjournals c hc
    obtain rfl : events = events' := List.append_cancel_left (hevents.symm.trans hevents')
    exact hjournal.exists_runs hj
  · intro j k hd sender name state hj
    obtain ⟨hsender, hstate, hemission⟩ := haccount.called hj
    exact ⟨hsender, hstate, hemission, haccount.reports_at_call ht he hj⟩

/-! ### Assignments -/

/-- What is true of an assignment of a value through a setter at a moment, wherever it takes
place. -/
structure AssignsOnce (t : CompiledType) (run : Runner) (s : Setter) (v : Value) (m : Moment) :
    Prop where
  /-- A setter hook alone decides, by whether its answer counts as true. -/
  decided : ∀ hook, s.hook = some hook →
    (s.goesAhead run v).run m = match (hook.call run [m.self, v]).run m with
      | (.ok w, m₁) => (.ok (m₁.counts w), m₁)
      | (.error f, m₁) => (.error f, m₁)
  /-- If the decision halts, nothing more is done. -/
  halted : ∀ f m₁, (s.goesAhead run v).run m = (.error f, m₁) →
    (s.assign run v).run m = (.error f, m₁)
  /-- If it is against the assignment, nothing more is done either. -/
  refused : ∀ m₁, (s.goesAhead run v).run m = (.ok false, m₁) →
    (s.assign run v).run m = (.ok (), m₁)
  /-- Otherwise a store is next, and if there is a channel its emission.  In this one the bodies run
  of the handlers that are subscribed then, all of them unless one halts. -/
  stored : ∀ m₁, (s.goesAhead run v).run m = (.ok true, m₁) →
    ∃ result m' events, (s.assign run v).run m = (result, m') ∧
      m'.history = m₁.history ++ .stored s.name s.ordinal v :: events ∧
      m'.entity.core = (m₁.entity.replay (.stored s.name s.ordinal v :: events)).core ∧
      (s.notifies = false → result = .ok () ∧ events = []) ∧
      (s.notifies = true → events[0]? = some (.emitted s.name m₁.entity.handlers) ∧
        ∃ called,
          CallsEnd run (m₁.history.length + 1) m₁.self s.name m₁.entity.handlers
            (s.announced v m₁) called result m' ∧
          calledFor (m₁.history.length + 1) events = called ∧
          (result = .ok () → called = m₁.entity.handlers))
  /-- When it is the turn of a handler, its body finds a sound entity with the property marked. -/
  shown : ∀ m₁, (s.goesAhead run v).run m = (.ok true, m₁) →
    ∀ before hd after m₂, m₁.entity.handlers = before ++ hd :: after →
      Returned run (m₁.history.length + 1) m₁.self s.name before (s.announced v m₁) m₂ →
      t.Sound m₂.entity ∧ t.Reports m₂.entity s.ordinal.toNat s.name

/-- Assignments to the properties of an entity are made so. -/
theorem assignsOnce (ht : t.Aligned) {handlers : Table String HandlerSpec} {run : Runner}
    (hrun : (t.scene handlers).Admits run) {s : Setter} (hs : (t.scene handlers).Sets s) (v : Value)
    {m : Moment} (hm : t.Sound m.entity) : t.AssignsOnce run s v m := by
  obtain ⟨i, p, hp, rfl⟩ := ht.sets_iff.1 hs
  have hbodies := (ht.confines_accounts handlers).of_admits hrun
  have hordinal : (p.compiledSetter t.schema.needsNotification).ordinal = (i : ℤ) :=
    ht.ordinal_eq hp
  refine ⟨fun hook hhook => Setter.run_goesAhead_of_hook hhook run v m, ?_, ?_, ?_, ?_⟩
  · intro f m₁ hdecide
    rw [Setter.run_assign, hdecide]
  · intro m₁ hdecide
    rw [Setter.run_assign, hdecide]
  · intro m₁ hdecide
    have hm₁ := ht.sound_of_goesAhead hrun hdecide hm
    cases hf : ((p.compiledSetter t.schema.needsNotification).finish run v).run m₁ with
    | mk result m' =>
      obtain ⟨events, hevents, haccount, htold, hsilent⟩ :=
        ht.account_finish hbodies hm₁ hp hf
      refine ⟨result, m', events, ?_, ?_, ?_, hsilent, fun hn => ⟨?_, ?_⟩⟩
      · rw [Setter.run_assign, hdecide]
        exact hf
      · rw [hordinal]
        exact hevents
      · rw [hordinal]
        exact haccount.replayed
      · exact haccount.announced hn (j := 0) rfl
      · obtain ⟨called, hend, hcalled⟩ := htold hn
        rw [Setter.announced, hordinal]
        refine ⟨called, hend, hcalled, ?_⟩
        rintro rfl
        exact hend.called_eq
  · intro m₁ hdecide before hd after m₂ hsplit hreturned
    have hm₁ := ht.sound_of_goesAhead hrun hdecide hm
    have hn := hm₁.notifies_of_split hsplit
    rw [Setter.announced, hordinal] at hreturned
    have hcalls := hreturned.run_callHandlers []
    rw [List.append_nil] at hcalls
    obtain ⟨events, called, -, haccount, -⟩ := account_announced hbodies hm₁ hn hp hsplit hcalls
    have hm₂ := haccount.sound hm₁
    have hmarked : m₂.entity.mask.has i = true :=
      (haccount.has_end hm₁ i).2 (Or.inr ⟨p.name, v, List.mem_cons_self⟩)
    rw [hordinal]
    exact ⟨hm₂, hm₂.reports ht hp hmarked⟩

/-! ### Nothing is lost -/

/-- **Assignments within assignments lose nothing.**  Whatever the bodies of hooks and handlers do,
each operation on an entity that has come about, whether it returns or halts, adds `events` to the
history such that what was marked and stored stays so, each store is followed by one emission, in
which the bodies of the handlers run that are subscribed then, and each of these finds the property
marked.

And wherever an assignment takes place, on the surface or within bodies, which nested runners run: a
hook alone decides; if the decision halts or is against the assignment, nothing more is done;
otherwise it stores, and then the bodies of the handlers that are subscribed at that moment run, all
of them unless one halts. -/
theorem assignments_lose_nothing {t : CompiledType} {catalog : Catalog} {settings : Settings}
    {contract : Contract} (h : catalog.compile settings contract = .ok t)
    (handlers : Table String HandlerSpec) :
    (∀ run e work past serial result m, (t.scene handlers).Admits run → t.Reachable e →
      EntityWork.tells work = false →
      (work.perform run (t.scene handlers)).run ⟨e, past, serial⟩ = (result, m) →
      ∃ events : List Event, m.history = past ++ events ∧
        t.LosesNothing handlers past e events m.entity) ∧
    (∀ e, t.Reachable e → t.Sound e) ∧
    (∀ run m s v, (t.scene handlers).Admits run → t.Sound m.entity → (t.scene handlers).Sets s →
      t.AssignsOnce run s v m) := by
  have ht := aligned_of_compile h
  refine ⟨?_, fun e he => he.sound ht, fun run m s v hrun hm hs => assignsOnce ht hrun hs v hm⟩
  intro run e work past serial result m hrun hreach hwork hm
  have he := hreach.sound ht
  have hcomposed : Composed run (t.scene handlers) (work.perform run (t.scene handlers)) :=
    Composed.perform hwork
  obtain ⟨events, hevents, haccount⟩ :=
    (ht.confines_accounts handlers).composed hrun hcomposed ⟨e, past, serial⟩ he
  have hjournals := Scene.confines_journals.composed hrun hcomposed ⟨e, past, serial⟩
  rw [hm] at hevents haccount hjournals
  exact ⟨events, hevents, losesNothing ht he hevents haccount hjournals⟩

end CompiledType

/-- The store that an event was. -/
def Event.store? : Event → Option (String × ℤ × Value)
  | .stored name ordinal v => some (name, ordinal, v)
  | _ => none

theorem Event.store?_eq_some {event : Event} {name : String} {ordinal : ℤ} {v : Value}
    (h : event.store? = some (name, ordinal, v)) : event = .stored name ordinal v := by
  cases event with
  | stored name' ordinal' v' =>
    obtain ⟨rfl, rfl, rfl⟩ : name' = name ∧ ordinal' = ordinal ∧ v' = v := by
      simpa [Event.store?] using h
    rfl
  | _ => cases h

namespace Sample

/-- A handler that writes down which property it is told about, and then assigns the width. -/
def widener : Handler where
  name := "widener"
  identity := .itself "widener"
  body := .seq [.log (.arg 1), .set "width" (.const (.int 7))]

/-- The scene of a shape with the handler under its name. -/
def wideningScene : Scene := shapeType.scene [("widener", .callable widener)]

/-- A moment of a shape to which the handler has subscribed. -/
def unassigned : Moment :=
  ⟨{ newShape with channel := some ⟨⟨1, [widener]⟩, 2⟩ }, [], 0⟩

theorem reachable_unassigned : shapeType.Reachable unassigned.entity :=
  .worked (.new newEntity_shape) (Scene.admits_run wideningScene 1) (.subscribe "widener") ⟨[], 0⟩

/-- The setter of the height. -/
def heightSetter : Setter := ((wideningScene.tokens.get? "height").bind (·.setter)).get rfl

/-- The moment when the hook of the height has decided about its assignment. -/
def decided : Moment :=
  ((heightSetter.goesAhead (wideningScene.run 3) (.int 5)).run unassigned).2

theorem run_goesAhead_height :
    (heightSetter.goesAhead (wideningScene.run 3) (.int 5)).run unassigned =
      (.ok true, decided) := by
  have hresult : ((heightSetter.goesAhead (wideningScene.run 3) (.int 5)).run unassigned).1 =
      .ok true := by decide +kernel
  rw [decided, ← hresult, Prod.mk.eta]

/-- The moment when the height has been assigned. -/
def heightened : Moment := ((heightSetter.assign (wideningScene.run 3) (.int 5)).run unassigned).2

theorem run_assign_height :
    (heightSetter.assign (wideningScene.run 3) (.int 5)).run unassigned =
      (.ok (), heightened) := by
  have hresult : ((heightSetter.assign (wideningScene.run 3) (.int 5)).run unassigned).1 =
      .ok () := by decide +kernel
  rw [heightened, ← hresult, Prod.mk.eta]

theorem run_set_height :
    ((EntityWork.set "height" (.int 5)).perform (wideningScene.run 3) wideningScene).run
        unassigned =
      (.ok .nothing, heightened) := by
  have hmake : (make (.int 5)).run unassigned = (.ok (.int 5), unassigned) := rfl
  have hset : wideningScene.setAttribute (wideningScene.run 3) "height" (.int 5) =
      heightSetter.assign (wideningScene.run 3) (.int 5) := rfl
  unfold EntityWork.perform
  rw [run_bind_ok hmake, hset, run_bind_ok run_assign_height]
  rfl

theorem stored_heightened : heightened.history[4]? = some (.stored "width" 0 (.int 7)) := by
  have hstore : heightened.history[4]?.bind Event.store? = some ("width", 0, .int 7) := by
    decide +kernel
  obtain ⟨event, hevent, hstore⟩ := Option.bind_eq_some_iff.1 hstore
  rw [hevent, Event.store?_eq_some hstore]

end Sample

open Sample in
/-- The hook of the height assigns the width before.  The handler is told so and assigns the width
again, of which it is told while its body runs.  Then the height is stored, and the handler is told
a third time. -/
theorem CompiledType.assignments_lose_nothing_shape :
    ((EntityWork.set "height" (.int 5)).perform (wideningScene.run 3) wideningScene).run
          unassigned =
        (.ok .nothing, heightened) ∧
      heightened.entity.slots = [.int 7, .int 5] ∧ heightened.entity.mask.has 0 = true ∧
      loggedIn heightened.history = [.str "width", .str "width", .str "height"] ∧
      heightened.history[4]? = some (.stored "width" 0 (.int 7)) ∧
      (∃ hs last, heightened.history[5]? = some (.emitted "width" hs) ∧
        hs.map (·.name) = ["widener"] ∧
        wideningScene.EmissionRuns [] heightened.history 5 last "width" hs) ∧
      (heightSetter.goesAhead (wideningScene.run 3) (.int 5)).run unassigned =
        (.ok true, decided) ∧
      decided.entity.slots = [.int 7, .int 0] ∧
      CallsEnd (wideningScene.run 3) (decided.history.length + 1) decided.self "height"
        decided.entity.handlers (heightSetter.announced (.int 5) decided) decided.entity.handlers
        (.ok ()) heightened := by
  have hadmits := Scene.admits_run wideningScene 3
  obtain ⟨hoperations, hsound, hassigns⟩ :=
    assignments_lose_nothing compile_shape [("widener", .callable widener)]
  -- the operation
  obtain ⟨events, hevents, hkept⟩ := hoperations _ unassigned.entity (.set "height" (.int 5)) [] 0
    _ _ hadmits reachable_unassigned rfl run_set_height
  rw [List.nil_append] at hevents
  subst hevents
  have hannounced := hkept.announced rfl 4 "width" 0 (.int 7) stored_heightened
  obtain ⟨-, -, -, last, hruns⟩ := hkept.emitted 5 "width" _ hannounced
  -- the assignment of the height within it
  have hassign := hassigns _ unassigned heightSetter (.int 5) hadmits
    (hsound _ reachable_unassigned) ⟨"height", _, rfl, rfl⟩
  obtain ⟨result, m', rest, hrun, -, -, -, htold⟩ := hassign.stored decided run_goesAhead_height
  obtain ⟨rfl, rfl⟩ := Prod.mk.inj (run_assign_height.symm.trans hrun)
  obtain ⟨-, called, hend, -, hall⟩ := htold rfl
  rw [hall rfl] at hend
  refine ⟨run_set_height, by decide +kernel, ?_, by decide +kernel, stored_heightened,
    ⟨_, last, hannounced, by decide +kernel, hruns⟩, run_goesAhead_height, by decide +kernel, hend⟩
  exact hkept.marked_end 0 (Or.inr ⟨"width", .int 7, List.mem_of_getElem? stored_heightened⟩)

end TrackedEntity
