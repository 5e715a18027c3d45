import Mathlib.Data.List.Induction
import TrackedEntity.Proofs.Cache.Sharing
import TrackedEntity.Proofs.Contract.Numbering

/-!
# What a thread does to a shared cache

While a thread is in its exclusive section nobody else touches the cache, and what it does there
comes to one piece of work: `Cache.compileMissing` or `Cache.clear`, done to the cache that it found
when it entered (`OngoingCall.Accounts`).  In particular a compilation that fails leaves the cache
as it was.

The table of the cache is what the compilations since it was last cleared come to
(`CacheEvent.types`), up to the one type that is not stored yet, and the counter counts all
compilations, up to the one that is not counted yet (`SharedCache.Recorded`).  A contract is
compiled only if the table has no entry for it, and hence not again before the cache is cleared
(`CacheEvent.Separated`).
-/

namespace TrackedEntity

open Outcome

theorem Catalog.contract_of_compile {catalog : Catalog} {settings : Settings} {contract : Contract}
    {type : CompiledType} (h : catalog.compile settings contract = .ok type) :
    contract = .ofClass type.schema.contract := by
  cases contract with
  | ofValue v => cases h
  | ofClass ref =>
    obtain ⟨schema, hs, h⟩ := bind_eq_ok.1 h
    obtain ⟨layout, -, h⟩ := bind_eq_ok.1 h
    obtain ⟨tokens, -, h⟩ := bind_eq_ok.1 h
    obtain rfl := Except.ok.inj h
    obtain ⟨-, collected, properties, -, -, -, rfl⟩ := analyze_eq_ok_iff.1 hs
    rfl

/-! ### Compiling what is missing -/

namespace Cache

variable {catalog : Catalog} {contract : Contract} {cache : Cache}

theorem run_compileMissing_of_error {f : Fault} (h : cache.find contract = .error f) :
    (compileMissing catalog contract).run.run cache = (.error f, cache) := by
  show (ExceptT.run (liftM (cache.find contract) >>= _ : Request CachedType)).run cache = _
  rw [h]
  rfl

theorem run_compileMissing_of_found {found : CachedType}
    (h : cache.find contract = .ok (some found)) :
    (compileMissing catalog contract).run.run cache = (.ok found, cache) := by
  show (ExceptT.run (liftM (cache.find contract) >>= _ : Request CachedType)).run cache = _
  rw [h]
  rfl

/-- What is not found is compiled, and stored if that succeeds. -/
theorem run_compileMissing_of_missing (h : cache.find contract = .ok none) :
    (compileMissing catalog contract).run.run cache =
      (ExceptT.run (do
        let type ← (catalog.compile cache.settings contract : Except Fault CompiledType)
        set (cache.store type.schema.contract type).2
        return (cache.store type.schema.contract type).1 : Request CachedType)).run cache := by
  show (ExceptT.run (liftM (cache.find contract) >>= _ : Request CachedType)).run cache = _
  rw [h]
  rfl

theorem run_compileMissing_of_fail {f : Fault} (h : cache.find contract = .ok none)
    (hcompile : catalog.compile cache.settings contract = .error f) :
    (compileMissing catalog contract).run.run cache = (.error f, cache) := by
  rw [run_compileMissing_of_missing h, hcompile]
  rfl

theorem run_compileMissing_of_compile {type : CompiledType} (h : cache.find contract = .ok none)
    (hcompile : catalog.compile cache.settings contract = .ok type) :
    (compileMissing catalog contract).run.run cache =
      (.ok (cache.store type.schema.contract type).1,
        (cache.store type.schema.contract type).2) := by
  rw [run_compileMissing_of_missing h, hcompile]
  rfl

/-- A compilation that fails leaves the cache as it was, without an entry for the contract. -/
theorem compileMissing_error {cache' : Cache} {f : Fault}
    (h : (compileMissing catalog contract).run.run cache = (.error f, cache')) :
    cache' = cache ∧ ∀ found, cache.find contract ≠ .ok (some found) := by
  cases hfind : cache.find contract with
  | error g =>
    rw [run_compileMissing_of_error hfind] at h
    exact ⟨(congrArg Prod.snd h).symm, fun found heq => by cases heq⟩
  | ok found =>
    cases found with
    | some found =>
      rw [run_compileMissing_of_found hfind] at h
      cases congrArg Prod.fst h
    | none =>
      refine ⟨?_, fun found heq => by cases heq⟩
      cases hcompile : catalog.compile cache.settings contract with
      | error g =>
        rw [run_compileMissing_of_fail hfind hcompile] at h
        exact (congrArg Prod.snd h).symm
      | ok type =>
        rw [run_compileMissing_of_compile hfind hcompile] at h
        cases congrArg Prod.fst h

end Cache

/-- In a shared section the cache is only read. -/
theorem CacheAct.of_shared {cache cache' : Cache} {made : ℕ} {call : CacheCall}
    {stage stage' : CacheStage} {events : List CacheEvent}
    (h : CacheAct cache made call stage stage' cache' events) (hheld : .exclusive ∉ stage.held) :
    cache' = cache ∧ events = [] := by
  cases h with
  | lookUp => exact ⟨rfl, rfl⟩
  | compile | fail | store | count | clear => exact absurd List.mem_cons_self hheld

namespace OngoingCall

/-- Whether a new type is what compiling gives a request that found nothing when it entered. -/
def Makes (o : OngoingCall) (catalog : Catalog) (new : CachedType) : Prop :=
  ∃ contract, o.call = .request contract ∧ o.before.find contract = .ok none ∧
    catalog.compile o.before.settings contract = .ok new.type ∧
    new.number = o.before.compilations

/-- Whether a cache is what it was when the thread entered its exclusive section, with what the
thread has done since. -/
def Accounts (o : OngoingCall) (cache : Cache) : Prop :=
  match o.stage with
  | .storing new => cache = o.before ∧ ∃ catalog, o.Makes catalog new
  | .counting new =>
    cache = { o.before with types := o.before.types.put new.type.schema.contract new } ∧
      ∃ catalog, o.Makes catalog new
  | .compiling => cache = o.before ∧ ∃ contract, o.call = .request contract ∧
      o.before.find contract = .ok none
  | .leaving _ answer =>
    match o.call with
    | .request contract => ∃ (catalog : Catalog) (result : Except Fault CachedType),
        answer = result.map some ∧
          (Cache.compileMissing catalog contract).run.run o.before = (result, cache)
    | .clear => answer = .ok none ∧ cache = o.before.clear
  | .entering _ | .entered _ | .missed => cache = o.before

/-- The contract of a new type, and that there was no entry for it. -/
theorem Makes.not_mem {o : OngoingCall} {catalog : Catalog} {new : CachedType}
    (h : o.Makes catalog new) :
    o.call = .request (.ofClass new.type.schema.contract) ∧
      new.type.schema.contract ∉ o.before.types.keys := by
  obtain ⟨contract, hcall, hfind, hcompile, -⟩ := h
  obtain rfl := Catalog.contract_of_compile hcompile
  exact ⟨hcall, Table.get?_eq_none_iff.1 (Except.ok.inj hfind)⟩

/-- **What a thread does in its exclusive section** comes to compiling what is missing, or to
clearing. -/
theorem Accounts.act {o : OngoingCall} {cache cache' : Cache} {made : ℕ} {stage : CacheStage}
    {events : List CacheEvent} (h : o.Accounts cache) (hheld : .exclusive ∈ o.stage.held)
    (hmade : o.stage = .compiling → made = cache.compilations)
    (hact : CacheAct cache made o.call o.stage stage cache' events) :
    ({ o with stage } : OngoingCall).Accounts cache' := by
  obtain ⟨call, start, stage₀, before⟩ := o
  cases hact with
  | @lookUp contract a =>
    obtain rfl : Access.exclusive = a := by simpa [CacheStage.held] using hheld
    obtain rfl : cache = before := h
    -- any catalog will do where nothing is compiled
    let catalog : Catalog := ⟨⟨[]⟩, []⟩
    cases hfind : cache.find contract with
    | error f => exact ⟨catalog, .error f, rfl, Cache.run_compileMissing_of_error hfind⟩
    | ok found =>
      cases found with
      | none => exact ⟨rfl, contract, rfl, hfind⟩
      | some found => exact ⟨catalog, .ok found, rfl, Cache.run_compileMissing_of_found hfind⟩
  | @compile contract type catalog hcompile =>
    obtain ⟨rfl, contract', hcall, hfind⟩ := h
    obtain rfl : contract = contract' := by simpa using hcall
    exact ⟨rfl, catalog, contract, rfl, hfind, hcompile, hmade rfl⟩
  | @fail contract f catalog hcompile =>
    obtain ⟨rfl, contract', hcall, hfind⟩ := h
    obtain rfl : contract = contract' := by simpa using hcall
    exact ⟨catalog, .error f, rfl, Cache.run_compileMissing_of_fail hfind hcompile⟩
  | store =>
    obtain ⟨rfl, hmakes⟩ := h
    exact ⟨rfl, hmakes⟩
  | @count _ new =>
    obtain ⟨rfl, catalog, contract, hcall, hfind, hcompile, hnumber⟩ := h
    simp only at hcall hfind hcompile hnumber
    subst hcall
    have hrun := Cache.run_compileMissing_of_compile hfind hcompile
    have hnew : (before.store new.type.schema.contract new.type).1 = new := by
      rw [Cache.store, ← hnumber]
    have hcache : (before.store new.type.schema.contract new.type).2 =
        { before with
          types := before.types.put new.type.schema.contract new
          compilations := before.compilations + 1 } := by
      rw [Cache.store, ← hnumber]
    refine ⟨catalog, .ok new, rfl, hrun.trans ?_⟩
    show (Except.ok (before.store new.type.schema.contract new.type).1,
      (before.store new.type.schema.contract new.type).2) = _
    rw [hnew, hcache]
  | clear =>
    obtain rfl : cache = before := h
    exact ⟨rfl, rfl⟩

end OngoingCall

/-! ### What has happened -/

namespace CacheEvent

/-- The table after an event. -/
def onTypes (types : Table ClassRef CachedType) : CacheEvent → Table ClassRef CachedType
  | .compiled contract made => types ++ [(contract, made)]
  | .cleared => []

/-- The table that events come to: the compilations since the last clearing. -/
def types (events : List CacheEvent) : Table ClassRef CachedType := events.foldl onTypes []

theorem types_concat (events : List CacheEvent) (event : CacheEvent) :
    types (events ++ [event]) = onTypes (types events) event := by
  rw [types, List.foldl_append]
  rfl

/-- As long as nothing is cleared, the table has an entry for every compilation. -/
theorem length_types {events : List CacheEvent} (h : .cleared ∉ events) :
    (types events).length = events.countP isCompiled := by
  induction events using List.reverseRecOn with
  | nil => rfl
  | append_singleton events event ih =>
    rw [List.mem_append, not_or] at h
    rw [types_concat, List.countP_append]
    cases event with
    | compiled contract made =>
      rw [onTypes, List.length_append, ih h.1]
      rfl
    | cleared => exact absurd List.mem_cons_self h.2

/-- A contract that was compiled and not cleared since has an entry. -/
theorem mem_keys_types {contract : ClassRef} {made : CachedType} {before after : List CacheEvent}
    (h : .cleared ∉ after) :
    contract ∈ (types (before ++ .compiled contract made :: after)).keys := by
  induction after using List.reverseRecOn with
  | nil => simp [types_concat, onTypes, Table.keys]
  | append_singleton after event ih =>
    rw [List.mem_append, not_or] at h
    rw [← List.cons_append, ← List.append_assoc, types_concat]
    cases event with
    | compiled contract' made' =>
      rw [onTypes, Table.keys, List.map_append]
      exact List.mem_append_left _ (ih h.1)
    | cleared => exact absurd List.mem_cons_self h.2

/-- Whether between any two compilations of one contract everything was cleared. -/
def Separated (events : List CacheEvent) : Prop :=
  ∀ contract made made' before between after,
    events = before ++ .compiled contract made :: (between ++ .compiled contract made' :: after) →
      .cleared ∈ between

/-- One more event, which is no compilation of what has an entry. -/
theorem Separated.concat {events : List CacheEvent} (h : Separated events) {event : CacheEvent}
    (hevent : ∀ contract made, event = .compiled contract made → contract ∉ (types events).keys) :
    Separated (events ++ [event]) := by
  intro contract made made' before between after heq
  -- the second of the two compilations is the last event, or an earlier one
  rcases List.eq_nil_or_concat after with rfl | ⟨after, last, rfl⟩
  · obtain ⟨hevents, hlast⟩ : events = before ++ .compiled contract made :: between ∧
        event = .compiled contract made' := by
      have hsplit : events ++ [event] =
          (before ++ .compiled contract made :: between) ++ [.compiled contract made'] := by
        rw [heq]
        simp
      obtain ⟨hevents, hlast⟩ := List.append_inj' hsplit rfl
      exact ⟨hevents, by simpa using hlast⟩
    by_contra hnot
    exact hevent contract made' hlast (hevents ▸ mem_keys_types hnot)
  · have hsplit : events ++ [event] =
        (before ++ .compiled contract made :: (between ++ .compiled contract made' :: after)) ++
          [last] := by
      rw [heq]
      simp
    exact h contract made made' before between after (List.append_inj' hsplit rfl).1

end CacheEvent

/-! ### The table, the counter, and what has happened -/

namespace CacheStage

/-- What was compiled and is not stored yet. -/
def unstored : CacheStage → Table ClassRef CachedType
  | .storing new => [(new.type.schema.contract, new)]
  | _ => []

/-- The number of compilations that are not counted yet. -/
def uncounted : CacheStage → ℕ
  | .storing _ | .counting _ => 1
  | _ => 0

theorem settled_afterLookUp (a : Access) (found : Except Fault (Option CachedType)) :
    (afterLookUp a found).unstored = [] ∧ (afterLookUp a found).uncounted = 0 := by
  cases found with
  | error f => cases a <;> exact ⟨rfl, rfl⟩
  | ok found =>
    cases found with
    | none => cases a <;> exact ⟨rfl, rfl⟩
    | some made => cases a <;> exact ⟨rfl, rfl⟩

end CacheStage

/-- Whether a cache is what events come to, up to what a thread at a stage has still to do. -/
structure Cache.Agrees (cache : Cache) (events : List CacheEvent) (stage : CacheStage) : Prop where
  types_eq : CacheEvent.types events = cache.types ++ stage.unstored
  count_eq : events.countP CacheEvent.isCompiled = cache.compilations + stage.uncounted

/-- What a thread does in its exclusive section keeps the cache what events come to, and compiles
nothing that has an entry. -/
theorem Cache.Agrees.act {cache cache' : Cache} {events events' : List CacheEvent}
    {o : OngoingCall} {stage : CacheStage} (h : cache.Agrees events o.stage)
    (haccounts : o.Accounts cache)
    (hact : CacheAct cache (events.countP CacheEvent.isCompiled) o.call o.stage stage cache'
      events') :
    cache'.Agrees (events ++ events') stage ∧
      ∀ event ∈ events', events' = [event] ∧ ∀ contract made, event = .compiled contract made →
        contract ∉ (CacheEvent.types events).keys := by
  obtain ⟨call, start, stage₀, before⟩ := o
  obtain ⟨htypes, hcount⟩ := h
  cases hact with
  | @lookUp contract a =>
    obtain ⟨hstored, hcounted⟩ := CacheStage.settled_afterLookUp a (cache.find contract)
    rw [List.append_nil]
    refine ⟨⟨?_, ?_⟩, fun _ hevent => absurd hevent List.not_mem_nil⟩
    · rw [hstored]
      exact htypes
    · rw [hcounted]
      exact hcount
  | @compile contract type catalog hcompile =>
    refine ⟨⟨?_, ?_⟩, ?_⟩
    · rw [CacheEvent.types_concat, htypes]
      exact congrArg (· ++ _) (List.append_nil _)
    · rw [List.countP_append, hcount]
      rfl
    · intro event hevent
      obtain rfl := List.mem_singleton.1 hevent
      refine ⟨rfl, ?_⟩
      rintro _ _ ⟨⟩
      -- the thread found nothing when it looked
      obtain ⟨rfl, contract', hcall, hfind⟩ := haccounts
      obtain rfl : contract = contract' := by simpa using hcall
      obtain rfl := Catalog.contract_of_compile hcompile
      rw [htypes]
      simpa [CacheStage.unstored] using Table.get?_eq_none_iff.1 (Except.ok.inj hfind)
  | fail =>
    rw [List.append_nil]
    exact ⟨⟨htypes, hcount⟩, fun _ hevent => absurd hevent List.not_mem_nil⟩
  | @store _ new =>
    obtain ⟨rfl, catalog, hmakes⟩ := haccounts
    obtain ⟨-, hnot⟩ := hmakes.not_mem
    rw [List.append_nil]
    refine ⟨⟨?_, hcount⟩, fun _ hevent => absurd hevent List.not_mem_nil⟩
    show _ = Table.put cache.types new.type.schema.contract new ++ []
    rw [Table.put_of_not_mem hnot, List.append_nil]
    exact htypes
  | @count _ new =>
    rw [List.append_nil]
    exact ⟨⟨htypes, hcount⟩, fun _ hevent => absurd hevent List.not_mem_nil⟩
  | clear =>
    refine ⟨⟨?_, ?_⟩, ?_⟩
    · rw [CacheEvent.types_concat]
      rfl
    · rw [List.countP_append]
      exact hcount
    · intro event hevent
      obtain rfl := List.mem_singleton.1 hevent
      refine ⟨rfl, fun contract made heq => ?_⟩
      cases heq

namespace SharedCache

variable {w w' : SharedCache} {name : String}

/-- Whether what is recorded agrees with the cache, and each writer accounts for what it does. -/
structure Recorded (w : SharedCache) : Prop where
  inside : ∀ {name o}, w.ongoing name = some o → .exclusive ∈ o.stage.held →
    w.cache.Agrees w.events o.stage ∧ o.Accounts w.cache
  outside : (∀ name, ¬ w.Writes name) → w.cache.Agrees w.events .missed
  separated : CacheEvent.Separated w.events
  nodup : (CacheEvent.types w.events).keys.Nodup

namespace Locked

theorem writes_iff_exists (h : w.Locked) :
    w.Writes name ↔ ∃ o, w.ongoing name = some o ∧ .exclusive ∈ o.stage.held := by
  rw [Writes, h.held, heldBy]
  cases w.ongoing name with
  | none => simp
  | some o => simp

/-- A thread that enters an exclusive section finds nobody in one. -/
theorem not_writes_of_enter (h : w.Locked) (h' : w'.Locked) {o? : Option OngoingCall}
    (hongoing : w'.ongoing = Function.update w.ongoing name o?) (hname : w'.Writes name)
    (hout : ¬ w.Writes name) : ∀ other, ¬ w.Writes other := by
  intro other hother
  have hne : other ≠ name := fun heq => hout (heq ▸ hother)
  have hother' : w'.Writes other := by
    rwa [h'.writes_iff_exists, ongoing_of_ne hongoing hne, ← h.writes_iff_exists]
  exact hne (h'.alone hname hother')

end Locked

namespace Recorded

theorem init (settings : Settings) : (init settings).Recorded where
  inside ho := by cases ho
  outside _ := ⟨rfl, rfl⟩
  separated := by
    intro contract made made' before between after heq
    cases before with
    | nil => cases heq
    | cons event before => cases heq
  nodup := List.nodup_nil

/-- A step of one thread that neither changes the cache nor leaves anything undone. -/
theorem update (h : w.Recorded) (hl : w.Locked) (hl' : w'.Locked) {o? : Option OngoingCall}
    (hcache : w'.cache = w.cache) (hevents : w'.events = w.events)
    (hongoing : w'.ongoing = Function.update w.ongoing name o?)
    (hfrom : ∀ o, w.ongoing name = some o → .exclusive ∈ o.stage.held →
      o.stage.unstored = [] ∧ o.stage.uncounted = 0)
    (hto : ∀ o, o? = some o → .exclusive ∈ o.stage.held →
      w.cache.Agrees w.events o.stage ∧ o.Accounts w.cache) : w'.Recorded where
  inside {other o} ho hheld := by
    rw [hcache, hevents]
    by_cases hne : other = name
    · subst hne
      exact hto o (ongoing_self hongoing ▸ ho) hheld
    · exact h.inside (ongoing_of_ne hongoing hne ▸ ho) hheld
  outside hnobody := by
    rw [hcache, hevents]
    by_cases hwriter : ∃ other, w.Writes other
    · obtain ⟨other, hother⟩ := hwriter
      obtain ⟨o, ho, hheld⟩ := hl.writes_iff_exists.1 hother
      -- who does not write any more is the thread of this step
      obtain rfl : other = name := by
        by_contra hne
        exact hnobody other
          (hl'.writes_iff_exists.2 ⟨o, (ongoing_of_ne hongoing hne).trans ho, hheld⟩)
      obtain ⟨hstored, hcounted⟩ := hfrom o ho hheld
      obtain ⟨htypes, hcount⟩ := (h.inside ho hheld).1
      rw [hstored] at htypes
      rw [hcounted] at hcount
      exact ⟨htypes, hcount⟩
    · exact h.outside (not_exists.1 hwriter)
  separated := hevents ▸ h.separated
  nodup := hevents ▸ h.nodup

/-- What happens is at most one thing, and no compilation of what has an entry. -/
theorem events_act (h : w.Recorded) {events : List CacheEvent}
    (hevents : ∀ event ∈ events, events = [event] ∧ ∀ contract made,
      event = .compiled contract made → contract ∉ (CacheEvent.types w.events).keys) :
    CacheEvent.Separated (w.events ++ events) ∧
      (CacheEvent.types (w.events ++ events)).keys.Nodup := by
  cases events with
  | nil =>
    rw [List.append_nil]
    exact ⟨h.separated, h.nodup⟩
  | cons event events =>
    obtain ⟨heq, hnew⟩ := hevents event List.mem_cons_self
    obtain rfl : events = [] := (List.cons.inj heq).2
    refine ⟨h.separated.concat hnew, ?_⟩
    rw [CacheEvent.types_concat]
    cases event with
    | compiled contract made =>
      rw [CacheEvent.onTypes, Table.keys, List.map_append]
      show (Table.keys (CacheEvent.types w.events) ++ [contract]).Nodup
      rw [← List.concat_eq_append]
      exact h.nodup.concat (hnew contract made rfl)
    | cleared => exact List.nodup_nil

/-- What a thread does in a section. -/
theorem act (h : w.Recorded) (hl : w.Locked) {o : OngoingCall} {stage : CacheStage} {cache : Cache}
    {events : List CacheEvent}
    (hl' : Locked { w.leaveAt name (some { o with stage }) with
      cache, events := w.events ++ events })
    (ho : w.ongoing name = some o)
    (hact : CacheAct w.cache w.compiles o.call o.stage stage cache events) :
    Recorded { w.leaveAt name (some { o with stage }) with
      cache, events := w.events ++ events } := by
  by_cases hheld : .exclusive ∈ o.stage.held
  · -- in an exclusive section, and nobody else in any
    have hheld' : .exclusive ∈ stage.held := hact.held_eq ▸ hheld
    have hwrites := (hl'.writes_iff (ongoing_self rfl)).2 hheld'
    obtain ⟨hagrees, haccounts⟩ := h.inside ho hheld
    obtain ⟨hagrees', hevents⟩ := hagrees.act haccounts hact
    obtain ⟨hseparated, hnodup⟩ := h.events_act hevents
    refine ⟨?_, fun hnobody => absurd hwrites (hnobody name), hseparated, hnodup⟩
    intro other o' ho' hother
    obtain rfl := hl'.alone hwrites (hl'.writes_iff_exists.2 ⟨o', ho', hother⟩)
    obtain rfl := Option.some.inj ((ongoing_self rfl).symm.trans ho')
    refine ⟨hagrees', haccounts.act hheld ?_ hact⟩
    -- all compilations so far are counted when the next one starts
    intro hstage
    rw [hstage] at hagrees
    exact hagrees.count_eq
  · -- in a shared section, where the cache is only read
    have hheld' : .exclusive ∉ stage.held := hact.held_eq ▸ hheld
    obtain ⟨rfl, rfl⟩ := hact.of_shared hheld
    refine h.update hl hl' rfl (List.append_nil _) rfl ?_ ?_
    · intro o' ho' hother
      obtain rfl : o = o' := Option.some.inj (ho.symm.trans ho')
      exact absurd hother hheld
    · rintro o' ⟨⟩ hother
      exact absurd hother hheld'

/-- **Every step keeps the record.** -/
theorem step (h : w.Recorded) (hl : w.Locked) (hl' : w'.Locked) (hs : Step w w') :
    w'.Recorded := by
  cases hs with
  | @call name ho call =>
    refine h.update hl hl' rfl rfl rfl ?_ ?_
    · intro o ho'
      rw [ho] at ho'
      cases ho'
    · rintro o ⟨⟩ hheld
      exact absurd hheld List.not_mem_nil
  | @wait name o a m c ho hstage hm hmove hout =>
    refine h.update hl hl' rfl rfl rfl ?_ ?_
    · intro o' ho' hheld
      obtain rfl : o = o' := Option.some.inj (ho.symm.trans ho')
      rw [hstage] at hheld
      exact absurd hheld List.not_mem_nil
    · rintro o' ⟨⟩ hheld
      rw [hstage] at hheld
      exact absurd hheld List.not_mem_nil
  | @enter name o a m c ho hstage hm hmove hin =>
    have hout : .exclusive ∉ o.stage.held := by
      rw [hstage]
      exact List.not_mem_nil
    refine h.update hl hl' rfl rfl rfl ?_ ?_
    · intro o' ho' hheld
      obtain rfl : o = o' := Option.some.inj (ho.symm.trans ho')
      exact absurd hheld hout
    · rintro o' ⟨⟩ hheld
      have hwrites := (hl'.writes_iff (ongoing_self rfl)).2 hheld
      have hnobody := hl.not_writes_of_enter hl' rfl hwrites (mt (hl.writes_iff ho).1 hout)
      obtain ⟨htypes, hcount⟩ := h.outside hnobody
      exact ⟨⟨htypes, hcount⟩, rfl⟩
  | @act name o stage cache events ho hact => exact h.act hl hl' ho hact
  | @giveWay name o c ho hstage hmove =>
    refine h.update hl hl' rfl rfl rfl ?_ ?_
    · intro o' ho' hheld
      obtain rfl : o = o' := Option.some.inj (ho.symm.trans ho')
      rw [hstage]
      exact ⟨rfl, rfl⟩
    · rintro o' ⟨⟩ hheld
      exact absurd hheld List.not_mem_nil
  | @finish name o a answer c ho hstage hmove =>
    refine h.update hl hl' rfl rfl rfl ?_ ?_
    · intro o' ho' hheld
      obtain rfl : o = o' := Option.some.inj (ho.symm.trans ho')
      rw [hstage]
      exact ⟨rfl, rfl⟩
    · intro o' ho'
      cases ho'

end Recorded

theorem Reachable.recorded (h : w.Reachable) : w.Recorded := by
  induction h with
  | init settings => exact .init settings
  | step hreach hs ih => exact ih.step hreach.locked (hreach.step hs).locked hs

end SharedCache

end TrackedEntity
