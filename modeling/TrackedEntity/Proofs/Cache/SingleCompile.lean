import TrackedEntity.Proofs.Cache.Sections
import TrackedEntity.Proofs.Entity.Invariant

/-!
# One compilation for everybody

Whatever the order in which threads take their steps: a contract is compiled at most once between
two clearings, the counter is the number of compilations, and a failed compilation leaves nothing
behind (`SharedCache.Reachable.single_compile`).

What a request returns was in the table at a time between its start and its end
(`SharedCache.Served`).  As long as nothing is cleared, the table only grows, and so all requests
for a contract return the same type (`SharedCache.Kept`).
-/

namespace TrackedEntity

namespace CacheEvent

/-- The compilations since the last clearing, after events that are none. -/
theorem types_prefix {before after : List CacheEvent} (h : .cleared ∉ after) :
    types before <+: types (before ++ after) := by
  induction after using List.reverseRecOn with
  | nil => rw [List.append_nil]
  | append_singleton after event ih =>
    rw [List.mem_append, not_or] at h
    rw [← List.append_assoc, types_concat]
    cases event with
    | compiled contract made => exact (ih h.1).trans (List.prefix_append _ _)
    | cleared => exact absurd List.mem_cons_self h.2

end CacheEvent

namespace SharedCache

variable {w w' : SharedCache} {name : String} {contract : Contract} {made made' : CachedType}
  {o : OngoingCall} {start time : ℕ} {answer : Except Fault (Option CachedType)}

/-! ### Times -/

theorem Step.past_eq (hs : Step w w') : w'.past = w.past ++ [w.cache] := by
  cases hs with
  | call | wait | enter | act | giveWay | finish => rfl

theorem Step.clock_eq (hs : Step w w') : w'.clock = w.clock + 1 := by
  rw [clock, hs.past_eq, List.length_append]
  rfl

theorem Step.states_eq (hs : Step w w') : w'.states = w.states ++ [w'.cache] := by
  rw [states, states, hs.past_eq]

theorem states_clock (w : SharedCache) : w.states[w.clock]? = some w.cache :=
  List.getElem?_concat_length

/-- What happened before a step still happened after it. -/
theorem Step.events_prefix (hs : Step w w') : w.events <+: w'.events := by
  cases hs with
  | call | wait | enter | giveWay | finish => exact List.prefix_refl _
  | act => exact List.prefix_append _ _

/-- Whether a type was in the table for a contract at some time. -/
def Stored (w : SharedCache) (contract : Contract) (made : CachedType) (time : ℕ) : Prop :=
  ∃ cache, w.states[time]? = some cache ∧ cache.find contract = .ok (some made)

theorem Stored.now (h : w.cache.find contract = .ok (some made)) :
    w.Stored contract made w.clock :=
  ⟨w.cache, w.states_clock, h⟩

theorem Stored.later (h : w.Stored contract made time) (hs : Step w w') :
    w'.Stored contract made time := by
  obtain ⟨cache, htime, hfind⟩ := h
  obtain ⟨hlt, -⟩ := List.getElem?_eq_some_iff.1 htime
  refine ⟨cache, ?_, hfind⟩
  rw [hs.states_eq, List.getElem?_append_left hlt]
  exact htime

/-! ### What a request returns -/

/-- Whether the answer to a request, if it succeeds, is a type that was in the table at a time from
one on to another. -/
def Served (w : SharedCache) (contract : Contract) (start finish : ℕ)
    (answer : Except Fault (Option CachedType)) : Prop :=
  ∀ found, answer = .ok found →
    ∃ made time, found = some made ∧ start ≤ time ∧ time ≤ finish ∧ w.Stored contract made time

theorem Served.later {finish finish' : ℕ} (h : w.Served contract start finish answer)
    (hs : Step w w') (hle : finish ≤ finish') : w'.Served contract start finish' answer := by
  intro found hfound
  obtain ⟨made, time, hmade, hstart, hfinish, hstored⟩ := h found hfound
  exact ⟨made, time, hmade, hstart, Nat.le_trans hfinish hle, hstored.later hs⟩

theorem Served.now (hstart : start ≤ w.clock) (h : w.cache.find contract = .ok (some made)) :
    w.Served contract start w.clock (.ok (some made)) := by
  rintro found ⟨⟩
  exact ⟨made, w.clock, rfl, hstart, Nat.le_refl _, .now h⟩

/-- Whether what threads are at, and the calls that returned, have times and answers that fit. -/
structure Dated (w : SharedCache) : Prop where
  started : ∀ {name o}, w.ongoing name = some o → o.start ≤ w.clock
  leaving : ∀ {name o contract a answer}, w.ongoing name = some o → o.call = .request contract →
    o.stage = .leaving a answer → w.Served contract o.start w.clock answer
  returned : ∀ r ∈ w.returned, r.start ≤ r.finish ∧
    ∀ contract, r.call = .request contract → w.Served contract r.start r.finish r.answer

/-- What a request finds or makes is in the table when it has its answer. -/
theorem served_of_act {stage : CacheStage} {cache : Cache} {events : List CacheEvent}
    {a : Access} (hr : w.Recorded) (ho : w.ongoing name = some o) (hstart : o.start ≤ w.clock)
    (hcall : o.call = .request contract)
    (hact : CacheAct w.cache w.compiles o.call o.stage stage cache events)
    (hstage : stage = .leaving a answer) : w.Served contract o.start w.clock answer := by
  obtain ⟨call, start, stage₀, before⟩ := o
  simp only at hcall hstart
  subst hcall
  cases hact with
  | @lookUp _ b =>
    cases hfind : w.cache.find contract with
    | error f =>
      obtain rfl : .error f = answer := by
        rw [hfind] at hstage
        cases b <;> exact (CacheStage.leaving.inj hstage).2
      exact fun found hfound => by cases hfound
    | ok found =>
      cases found with
      | none =>
        rw [hfind] at hstage
        cases b <;> cases hstage
      | some made =>
        obtain rfl : .ok (some made) = answer := by
          rw [hfind] at hstage
          cases b <;> exact (CacheStage.leaving.inj hstage).2
        exact Served.now hstart hfind
  | compile => cases hstage
  | fail =>
    obtain rfl := (CacheStage.leaving.inj hstage).2
    exact fun found hfound => by cases hfound
  | store => cases hstage
  | @count _ new =>
    obtain rfl := (CacheStage.leaving.inj hstage).2
    -- it was stored in the step before
    obtain ⟨-, hcache, catalog, hmakes⟩ := hr.inside ho List.mem_cons_self
    obtain rfl : contract = .ofClass new.type.schema.contract := by
      simpa using hmakes.not_mem.1
    refine Served.now hstart ?_
    rw [hcache]
    exact congrArg Except.ok (Table.get?_put_self _ _ _)

namespace Dated

theorem init (settings : Settings) : (init settings).Dated where
  started ho := by cases ho
  leaving ho := by cases ho
  returned _ hr := absurd hr List.not_mem_nil

/-- A step of one thread. -/
theorem update (h : w.Dated) (hs : Step w w') {o? : Option OngoingCall}
    (hongoing : w'.ongoing = Function.update w.ongoing name o?)
    (hstarted : ∀ o, o? = some o → o.start ≤ w.clock)
    (hleaving : ∀ o contract a answer, o? = some o → o.call = .request contract →
      o.stage = .leaving a answer → w.Served contract o.start w.clock answer)
    (hreturned : ∀ r ∈ w'.returned, r ∈ w.returned ∨ r.start ≤ r.finish ∧
      ∀ contract, r.call = .request contract → w.Served contract r.start r.finish r.answer) :
    w'.Dated where
  started {other o} ho := by
    rw [hs.clock_eq]
    by_cases hne : other = name
    · subst hne
      exact Nat.le_succ_of_le (hstarted o (ongoing_self hongoing ▸ ho))
    · exact Nat.le_succ_of_le (h.started (ongoing_of_ne hongoing hne ▸ ho))
  leaving {other o contract a answer} ho hcall hstage := by
    have hle : w.clock ≤ w'.clock := by
      rw [hs.clock_eq]
      exact Nat.le_succ _
    by_cases hne : other = name
    · subst hne
      have ho' := (ongoing_self hongoing).symm.trans ho
      exact (hleaving o contract a answer ho' hcall hstage).later hs hle
    · have ho' := (ongoing_of_ne hongoing hne).symm.trans ho
      exact (h.leaving ho' hcall hstage).later hs hle
  returned r hr := by
    obtain ⟨hle, hserved⟩ : r.start ≤ r.finish ∧
        ∀ contract, r.call = .request contract → w.Served contract r.start r.finish r.answer := by
      rcases hreturned r hr with hold | hnew
      · exact h.returned r hold
      · exact hnew
    exact ⟨hle, fun contract hcall => (hserved contract hcall).later hs (Nat.le_refl _)⟩

theorem step (h : w.Dated) (hr : w.Recorded) (hs : Step w w') : w'.Dated := by
  have hstep := hs
  cases hs with
  | @call name ho call =>
    refine h.update hstep rfl ?_ ?_ (fun r hr => .inl hr)
    · rintro o ⟨⟩
      exact Nat.le_refl _
    · rintro o contract a answer ⟨⟩ - hstage
      cases hstage
  | @wait name o a m c ho hstage hm hmove hout =>
    refine h.update hstep rfl ?_ ?_ (fun r hr => .inl hr)
    · rintro o' ⟨⟩
      exact h.started ho
    · rintro o' contract b answer ⟨⟩
      exact h.leaving ho
  | @enter name o a m c ho hstage hm hmove hin =>
    refine h.update hstep rfl ?_ ?_ (fun r hr => .inl hr)
    · rintro o' ⟨⟩
      exact (h.started ho : o.start ≤ w.clock)
    · rintro o' contract b answer ⟨⟩ - hstage'
      cases hstage'
  | @act name o stage cache events ho hact =>
    refine h.update hstep rfl ?_ ?_ (fun r hr => .inl hr)
    · rintro o' ⟨⟩
      exact (h.started ho : o.start ≤ w.clock)
    · rintro o' contract b answer ⟨⟩ hcall hstage
      exact (served_of_act hr ho (h.started ho) hcall hact hstage :)
  | @giveWay name o c ho hstage hmove =>
    refine h.update hstep rfl ?_ ?_ (fun r hr => .inl hr)
    · rintro o' ⟨⟩
      exact (h.started ho : o.start ≤ w.clock)
    · rintro o' contract b answer ⟨⟩ - hstage'
      cases hstage'
  | @finish name o a answer c ho hstage hmove =>
    refine h.update hstep rfl ?_ ?_ ?_
    · intro o' ho'
      cases ho'
    · intro o' contract b answer ho'
      cases ho'
    · intro r hmem
      rcases List.mem_append.1 hmem with hold | hnew
      · exact .inl hold
      · obtain rfl := List.mem_singleton.1 hnew
        exact .inr ⟨h.started ho, fun contract hcall => h.leaving ho hcall hstage⟩

end Dated

theorem Reachable.dated (h : w.Reachable) : w.Dated := by
  induction h with
  | init settings => exact .init settings
  | step hreach hs ih => exact ih.step hreach.recorded hs

/-! ### Before anything is cleared -/

/-- The cache is what has happened, up to what a writer has still to do. -/
theorem Recorded.agrees (h : w.Recorded) (hl : w.Locked) :
    ∃ stage, w.cache.Agrees w.events stage := by
  by_cases hwriter : ∃ name, w.Writes name
  · obtain ⟨name, hname⟩ := hwriter
    obtain ⟨o, ho, hheld⟩ := hl.writes_iff_exists.1 hname
    exact ⟨o.stage, (h.inside ho hheld).1⟩
  · exact ⟨.missed, h.outside (not_exists.1 hwriter)⟩

/-- Whether, if nothing was cleared, everything that was in the table at any time is still there. -/
def Kept (w : SharedCache) : Prop :=
  .cleared ∉ w.events → ∀ cache ∈ w.states, cache.types <+: CacheEvent.types w.events

theorem Kept.step (h : w.Kept) (hs : Step w w') (hr : w'.Recorded) (hl : w'.Locked) :
    w'.Kept := by
  intro hcleared cache hcache
  rw [hs.states_eq, List.mem_append, List.mem_singleton] at hcache
  rcases hcache with hold | rfl
  · obtain ⟨events, hevents⟩ := hs.events_prefix
    rw [← hevents, List.mem_append, not_or] at hcleared
    rw [← hevents]
    exact (h hcleared.1 cache hold).trans (CacheEvent.types_prefix hcleared.2)
  · obtain ⟨stage, htypes, -⟩ := hr.agrees hl
    rw [htypes]
    exact List.prefix_append _ _

theorem Reachable.kept (h : w.Reachable) : w.Kept := by
  induction h with
  | init settings =>
    intro _ cache hcache
    obtain rfl := List.mem_singleton.1 hcache
    exact List.prefix_refl _
  | step hreach hs ih => exact ih.step hs (hreach.step hs).recorded (hreach.step hs).locked

/-- **All that is ever in the table for a contract is one type**, as long as nothing is cleared. -/
theorem Kept.stored_unique (h : w.Kept) (hr : w.Recorded) (hcleared : .cleared ∉ w.events)
    {time' : ℕ} (hstored : w.Stored contract made time) (hstored' : w.Stored contract made' time') :
    made = made' := by
  -- both are in the table that all compilations come to
  have hlast : ∀ {made time}, w.Stored contract made time →
      ∃ ref, contract = .ofClass ref ∧ (CacheEvent.types w.events).get? ref = some made := by
    rintro made time ⟨cache, htime, hfind⟩
    cases contract with
    | ofValue v =>
      obtain ⟨u, -, hfind⟩ := Outcome.bind_eq_ok.1 hfind
      cases hfind
    | ofClass ref =>
      have hpart := h hcleared cache (List.mem_of_getElem? htime)
      have hnodup : (Table.keys cache.types).Nodup :=
        (hpart.sublist.map Prod.fst).nodup hr.nodup
      have hmem := (Table.get?_eq_some_iff hnodup).1 (Except.ok.inj hfind)
      exact ⟨ref, rfl, (Table.get?_eq_some_iff hr.nodup).2 (hpart.subset hmem)⟩
  obtain ⟨ref, rfl, hget⟩ := hlast hstored
  obtain ⟨ref', heq, hget'⟩ := hlast hstored'
  obtain rfl := Contract.ofClass.inj heq
  exact Option.some.inj (hget.symm.trans hget')

/-! ### Failed compilations -/

/-- Nobody else is in any section with a thread that is in an exclusive one. -/
theorem Locked.held_eq_nil (h : w.Locked) (hname : w.Writes name) {other : String}
    (hne : other ≠ name) : (w.contention.thread other).held = [] := by
  refine List.eq_nil_iff_forall_not_mem.2 fun a ha => ?_
  cases a with
  | shared => exact h.reachable.counted.not_exclusive_of_shared ha hname
  | exclusive => exact hne (h.alone hname ha)

/-- Who has compiled in vain has changed nothing. -/
theorem Reachable.unchanged_of_error {f : Fault} (h : w.Reachable) (ho : w.ongoing name = some o)
    (hstage : o.stage = .leaving .exclusive (.error f)) :
    w.cache = o.before ∧ ∃ contract, o.call = .request contract ∧
      ∀ made, w.cache.find contract ≠ .ok (some made) := by
  have hheld : .exclusive ∈ o.stage.held := by
    rw [hstage]
    exact List.mem_cons_self
  have haccounts := (h.recorded.inside ho hheld).2
  rw [OngoingCall.Accounts, hstage] at haccounts
  cases hcall : o.call with
  | request contract =>
    rw [hcall] at haccounts
    obtain ⟨catalog, result, hresult, hrun⟩ := haccounts
    cases result with
    | error g =>
      obtain ⟨hcache, hnone⟩ := Cache.compileMissing_error hrun
      exact ⟨hcache, contract, rfl, hcache ▸ hnone⟩
    | ok found => cases hresult
  | clear =>
    rw [hcall] at haccounts
    cases haccounts.1

/-- Who has its answer can leave its section, and if that was an exclusive one, then nobody is in
any. -/
theorem Reachable.exists_finish (h : w.Reachable) (ho : w.ongoing name = some o)
    (hstage : o.stage = .leaving .exclusive answer) :
    ∃ w', Step w w' ∧ w'.cache = w.cache ∧ w'.events = w.events ∧
      w'.returned = w.returned ++ [⟨o.call, o.start, w.clock, answer⟩] ∧
      ∀ other, (w'.contention.thread other).held = [] := by
  have hheld : o.stage.held = [.exclusive] := by
    rw [hstage]
    rfl
  have hwrites : w.Writes name := by
    rw [h.locked.writes_iff ho, hheld]
    exact List.mem_cons_self
  have hfree : (w.contention.thread name).waiting = none :=
    h.locked.waiting_eq_none ho (hheld ▸ List.cons_ne_nil _ _)
  have hholds : (w.contention.thread name).held = [.exclusive] := by
    rw [h.locked.held, heldBy_of_some ho, hheld]
  obtain ⟨c, hmove⟩ := Contention.exists_leave hfree hholds
  refine ⟨_, .finish name ho hstage hmove, rfl, rfl, rfl, fun other => ?_⟩
  by_cases hne : other = name
  · subst hne
    show (c.thread other).held = []
    rw [(Contention.thread_of_leave hmove).2.2, hholds]
    rfl
  · exact (Contention.thread_of_ne hmove hne).1.trans (h.locked.held_eq_nil hwrites hne)

/-! ### All together -/

/-- **However threads interleave**, a contract is compiled at most once between two clearings.
While nobody is in an exclusive section the counter is the number of compilations, and, if nothing
was cleared, the number of contracts in the table; then all requests for a contract have one
answer.  In any case the answer was in the table at some time between the start and the end of the
request.  A failed compilation leaves the cache as it was, and its thread leaves a free lock. -/
theorem Reachable.single_compile (h : w.Reachable) :
    CacheEvent.Separated w.events ∧
    ((∀ name, ¬ w.Writes name) → w.cache.compilations = w.compiles) ∧
    (.cleared ∉ w.events →
      (w.cache.types.keys.Nodup ∧
        ((∀ name, ¬ w.Writes name) → w.cache.compilations = w.cache.size)) ∧
      ∀ r ∈ w.returned, ∀ r' ∈ w.returned, ∀ contract found found',
        r.call = .request contract → r'.call = .request contract →
        r.answer = .ok found → r'.answer = .ok found' → found = found') ∧
    (∀ r ∈ w.returned, ∀ contract found, r.call = .request contract → r.answer = .ok found →
      ∃ made time, found = some made ∧ r.start ≤ time ∧ time ≤ r.finish ∧
        w.Stored contract made time) ∧
    ∀ name o f, w.ongoing name = some o → o.stage = .leaving .exclusive (.error f) →
      (w.cache = o.before ∧ ∃ contract, o.call = .request contract ∧
        ∀ made, w.cache.find contract ≠ .ok (some made)) ∧
      ∃ w', Step w w' ∧ w'.cache = w.cache ∧ w'.events = w.events ∧
        w'.returned = w.returned ++ [⟨o.call, o.start, w.clock, .error f⟩] ∧
        ∀ other, (w'.contention.thread other).held = [] := by
  have hserved : ∀ r ∈ w.returned, ∀ contract, r.call = .request contract →
      w.Served contract r.start r.finish r.answer :=
    fun r hr => (h.dated.returned r hr).2
  refine ⟨h.recorded.separated, fun hnobody => ?_, fun hcleared => ⟨⟨?_, fun hnobody => ?_⟩, ?_⟩,
    fun r hr contract found hcall => hserved r hr contract hcall found,
    fun name o f ho hstage => ⟨h.unchanged_of_error ho hstage, h.exists_finish ho hstage⟩⟩
  · exact (h.recorded.outside hnobody).count_eq.symm
  · obtain ⟨stage, htypes, -⟩ := h.recorded.agrees h.locked
    have hpart : w.cache.types <+: CacheEvent.types w.events := by
      rw [htypes]
      exact List.prefix_append _ _
    exact (hpart.sublist.map Prod.fst).nodup h.recorded.nodup
  · obtain ⟨htypes, hcount⟩ := h.recorded.outside hnobody
    have hlength := CacheEvent.length_types hcleared
    rw [htypes, hcount] at hlength
    simpa [CacheStage.unstored, CacheStage.uncounted, Cache.size] using hlength.symm
  · intro r hr r' hr' contract found found' hcall hcall' hanswer hanswer'
    obtain ⟨made, time, rfl, -, -, hstored⟩ := hserved r hr contract hcall found hanswer
    obtain ⟨made', time', rfl, -, -, hstored'⟩ := hserved r' hr' contract hcall' found' hanswer'
    rw [h.kept.stored_unique h.recorded hcleared hstored hstored']

open Sample in
/-- Two threads that ask for a contract, and both find nothing first, get the one type. -/
theorem Reachable.single_compile_raced :
    ∃ w : SharedCache, w.Reachable ∧ .cleared ∉ w.events ∧ w.cache.compilations = 1 ∧
      w.cache.size = 1 ∧ ∃ r r', w.returned = [r, r'] ∧ r.answer = r'.answer := by
  obtain ⟨ongoing, past, hcompiling, ha, hb⟩ : ∃ ongoing past,
      Reachable ⟨.empty .default, ⟨⟨0, true, 0⟩, [("a", ⟨[.exclusive], none⟩), ("b", .idle)]⟩,
        ongoing, past, [], []⟩ ∧
      ongoing "a" = some ⟨.request (.ofClass (.declared 0)), 0, .compiling, .empty .default⟩ ∧
      ongoing "b" =
        some ⟨.request (.ofClass (.declared 0)), 1, .entering .exclusive, .empty .default⟩ := by
    have hcalled : Reachable _ := .step
      (.step (.init .default) (.call "a" rfl (.request (.ofClass (.declared 0)))))
      (.call "b" rfl (.request (.ofClass (.declared 0))))
    have hentered : Reachable _ :=
      (hcalled.step (.enter (m := .request .shared) "a" rfl rfl (.inl rfl) rfl rfl)).step
        (.enter (m := .request .shared) "b" rfl rfl (.inl rfl) rfl rfl)
    have hmissed : Reachable _ :=
      (hentered.step (.act "a" rfl .lookUp)).step (.act "b" rfl .lookUp)
    have hout : Reachable _ :=
      (hmissed.step (.giveWay "a" rfl rfl rfl)).step (.giveWay "b" rfl rfl rfl)
    have hagain : Reachable _ :=
      (hout.step (.enter (m := .request .exclusive) "a" rfl rfl (.inl rfl) rfl rfl)).step
        (.act "a" rfl .lookUp)
    exact ⟨_, _, hagain, rfl, rfl⟩
  have hcontract : shapeType.schema.contract = .declared 0 :=
    (Contract.ofClass.inj (Catalog.contract_of_compile compile_shape)).symm
  have hstored : Reachable _ :=
    (hcompiling.step (.act "a" ha (.compile shapes compile_shape))).step (.act "a" rfl .store)
  rw [hcontract] at hstored
  obtain ⟨ongoing', past', time, time', hdone⟩ : ∃ ongoing past time time',
      Reachable ⟨⟨.default, [(.declared 0, ⟨0, shapeType⟩)], 1⟩,
        ⟨⟨0, false, 0⟩, [("a", .idle), ("b", .idle)]⟩, ongoing, past,
        [.compiled (.declared 0) ⟨0, shapeType⟩],
        [⟨.request (.ofClass (.declared 0)), 0, time, .ok (some ⟨0, shapeType⟩)⟩,
          ⟨.request (.ofClass (.declared 0)), 1, time', .ok (some ⟨0, shapeType⟩)⟩]⟩ := by
    have hfirst : Reachable _ :=
      (hstored.step (.act "a" rfl .count)).step (.finish "a" rfl rfl rfl)
    have hfound : Reachable _ :=
      (hfirst.step (.enter (m := .request .exclusive) "b" hb rfl (.inl rfl) rfl rfl)).step
        (.act "b" rfl .lookUp)
    have hsecond : Reachable _ := hfound.step (.finish "b" rfl rfl rfl)
    exact ⟨_, _, _, _, hsecond⟩
  obtain ⟨-, hcounter, hkept, -⟩ := hdone.single_compile
  have hcleared : .cleared ∉ [CacheEvent.compiled (.declared 0) ⟨0, shapeType⟩] :=
    fun hmem => by cases List.mem_singleton.1 hmem
  have hnobody : ∀ name, .exclusive ∉ (Contention.thread
      ⟨⟨0, false, 0⟩, [("a", .idle), ("b", .idle)]⟩ name).held := by
    intro name
    rw [Contention.thread, Table.get?_cons, Table.get?_cons]
    split_ifs <;> exact List.not_mem_nil
  obtain ⟨⟨-, hsize⟩, hsame⟩ := hkept hcleared
  refine ⟨_, hdone, hcleared, hcounter hnobody, (hsize hnobody).symm, ?_⟩
  -- both requests have succeeded
  have hanswer := hsame _ List.mem_cons_self _ (List.mem_cons_of_mem _ List.mem_cons_self)
    _ _ _ rfl rfl rfl rfl
  exact ⟨_, _, rfl, congrArg Except.ok hanswer⟩

end SharedCache

end TrackedEntity
