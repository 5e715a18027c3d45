import Mathlib.Logic.Function.Basic
import TrackedEntity.Cache.Basic
import TrackedEntity.Proofs.Lock.Exclusion

/-!
# Caches that threads share

A `SharedCache` is a cache with a lock and any number of threads, each of which makes calls, one
after another: it asks for the compiled type of a contract, or it clears the cache.  At any time one
thread takes one step.

A request looks the contract up in a shared section, that is, while it has a shared hold of the
lock. If it finds nothing, it leaves that section and enters an exclusive one, in which it looks
again, compiles, stores and counts; others may do anything in between.  Clearing is an exclusive
section of its own.  Sections are entered and left by the moves of `Contention`, and so threads may
wait there, and be woken, as the lock has it.  What a compilation gives may be different each time,
as classes and hooks may have changed: every one has a catalog of its own.

The clock counts the steps.  The states of the cache, the compilations and clearings, the state in
which each thread entered its section, and the calls that have returned are kept, and nobody looks
at them.

Whoever is in a section has the hold of the lock that belongs to it (`SharedCache.Locked`), and
hence nobody is in any section while somebody is in an exclusive one (`Locked.alone`).
-/

namespace TrackedEntity

/-! ### Calls -/

/-- What a thread may ask of a cache. -/
inductive CacheCall where
  /-- The compiled type of a contract. -/
  | request (contract : Contract)
  /-- To drop all types. -/
  | clear

/-- The hold of the lock that a call needs first. -/
def CacheCall.access : CacheCall → Access
  | .request _ => .shared
  | .clear => .exclusive

/-- Where a thread stands in a call. -/
inductive CacheStage where
  /-- Before a section. -/
  | entering (access : Access)
  /-- In a section, where it has done nothing yet. -/
  | entered (access : Access)
  /-- In the shared section, where it found nothing. -/
  | missed
  /-- In the exclusive section, where it found nothing. -/
  | compiling
  /-- In the exclusive section, with a new type that is not stored. -/
  | storing (made : CachedType)
  /-- In the exclusive section, with a new type that is stored and not counted. -/
  | counting (made : CachedType)
  /-- In a section, with the answer to the call; clearing has none but that it succeeded. -/
  | leaving (access : Access) (answer : Except Fault (Option CachedType))

namespace CacheStage

/-- The holds of the lock that belong to a stage. -/
def held : CacheStage → List Access
  | .entering _ => []
  | .entered a | .leaving a _ => [a]
  | .missed => [.shared]
  | .compiling | .storing _ | .counting _ => [.exclusive]

/-- The stage that follows a look-up. -/
def afterLookUp : Access → Except Fault (Option CachedType) → CacheStage
  | .shared, .ok none => .missed
  | .exclusive, .ok none => .compiling
  | a, answer => .leaving a answer

theorem held_afterLookUp (a : Access) (found : Except Fault (Option CachedType)) :
    (afterLookUp a found).held = [a] := by
  cases found with
  | error f => cases a <;> rfl
  | ok found =>
    cases found with
    | none => cases a <;> rfl
    | some made => cases a <;> rfl

end CacheStage

/-- What happens to a cache. -/
inductive CacheEvent where
  /-- A successful compilation. -/
  | compiled (contract : ClassRef) (made : CachedType)
  | cleared

/-- Whether an event is a compilation. -/
def CacheEvent.isCompiled : CacheEvent → Bool
  | .compiled _ _ => true
  | .cleared => false

/-- **What a thread does in a section**, by itself: the stage before and after, the cache before and
after, and what happened.  A new type gets the number of compilations made so far. -/
inductive CacheAct (cache : Cache) (made : ℕ) :
    CacheCall → CacheStage → CacheStage → Cache → List CacheEvent → Prop
  | lookUp {contract : Contract} {a : Access} :
      CacheAct cache made (.request contract) (.entered a)
        (.afterLookUp a (cache.find contract)) cache []
  | compile {contract : Contract} {type : CompiledType} (catalog : Catalog)
      (h : catalog.compile cache.settings contract = .ok type) :
      CacheAct cache made (.request contract) .compiling (.storing ⟨made, type⟩) cache
        [.compiled type.schema.contract ⟨made, type⟩]
  | fail {contract : Contract} {fault : Fault} (catalog : Catalog)
      (h : catalog.compile cache.settings contract = .error fault) :
      CacheAct cache made (.request contract) .compiling (.leaving .exclusive (.error fault))
        cache []
  | store {call : CacheCall} {new : CachedType} :
      CacheAct cache made call (.storing new) (.counting new)
        { cache with types := cache.types.put new.type.schema.contract new } []
  | count {call : CacheCall} {new : CachedType} :
      CacheAct cache made call (.counting new) (.leaving .exclusive (.ok (some new)))
        { cache with compilations := cache.compilations + 1 } []
  | clear :
      CacheAct cache made .clear (.entered .exclusive) (.leaving .exclusive (.ok none)) cache.clear
        [.cleared]

theorem CacheAct.held_eq {cache cache' : Cache} {made : ℕ} {call : CacheCall}
    {stage stage' : CacheStage} {events : List CacheEvent}
    (h : CacheAct cache made call stage stage' cache' events) : stage'.held = stage.held := by
  cases h with
  | lookUp => exact CacheStage.held_afterLookUp _ _
  | compile | fail | store | count | clear => rfl

/-- A thread that acts is in a section. -/
theorem CacheAct.held_ne_nil {cache cache' : Cache} {made : ℕ} {call : CacheCall}
    {stage stage' : CacheStage} {events : List CacheEvent}
    (h : CacheAct cache made call stage stage' cache' events) : stage.held ≠ [] := by
  cases h with
  | lookUp | compile | fail | store | count | clear => exact List.cons_ne_nil _ _

/-! ### Threads -/

/-- A call under way. -/
structure OngoingCall where
  call : CacheCall
  start : ℕ
  stage : CacheStage
  /-- The cache as it was when the thread entered its section, or started the call. -/
  before : Cache

/-- A call that has returned. -/
structure ReturnedCall where
  call : CacheCall
  start : ℕ
  finish : ℕ
  answer : Except Fault (Option CachedType)

/-- A cache with a lock and the threads around it. -/
structure SharedCache where
  cache : Cache
  contention : Contention
  /-- What each thread is at. -/
  ongoing : String → Option OngoingCall
  /-- The cache before each of the steps so far. -/
  past : List Cache
  /-- What has happened to the cache so far. -/
  events : List CacheEvent
  returned : List ReturnedCall

namespace SharedCache

/-- A new cache, and threads that are at nothing. -/
def init (settings : Settings) : SharedCache := ⟨.empty settings, .start, fun _ => none, [], [], []⟩

/-- The number of steps so far. -/
def clock (w : SharedCache) : ℕ := w.past.length

/-- The cache at all times up to now. -/
def states (w : SharedCache) : List Cache := w.past ++ [w.cache]

/-- The number of successful compilations so far. -/
def compiles (w : SharedCache) : ℕ := w.events.countP CacheEvent.isCompiled

/-- Whether a thread is in an exclusive section. -/
def Writes (w : SharedCache) (name : String) : Prop :=
  .exclusive ∈ (w.contention.thread name).held

/-- The state after a step that leaves a thread at something. -/
def leaveAt (w : SharedCache) (name : String) (o : Option OngoingCall) : SharedCache :=
  { w with ongoing := Function.update w.ongoing name o, past := w.past ++ [w.cache] }

/-- One step of one thread. -/
inductive Step (w : SharedCache) : SharedCache → Prop
  /-- A thread that is at nothing starts a call. -/
  | call (name : String) (h : w.ongoing name = none) (call : CacheCall) :
      Step w (w.leaveAt name (some ⟨call, w.clock, .entering call.access, w.cache⟩))
  /-- A thread asks for the lock, or tests again, and has to wait. -/
  | wait (name : String) {o : OngoingCall} {a : Access} {m : Move} {c : Contention}
      (h : w.ongoing name = some o) (hstage : o.stage = .entering a)
      (hm : m = .request a ∨ m = .test) (hmove : w.contention.move? name m = some c)
      (hout : (c.thread name).waiting ≠ none) :
      Step w { w.leaveAt name (some o) with contention := c }
  /-- A thread asks for the lock, or tests again, and enters its section. -/
  | enter (name : String) {o : OngoingCall} {a : Access} {m : Move} {c : Contention}
      (h : w.ongoing name = some o) (hstage : o.stage = .entering a)
      (hm : m = .request a ∨ m = .test) (hmove : w.contention.move? name m = some c)
      (hin : (c.thread name).waiting = none) :
      Step w { w.leaveAt name (some { o with stage := .entered a, before := w.cache }) with
        contention := c }
  /-- A thread does something in its section. -/
  | act (name : String) {o : OngoingCall} {stage : CacheStage} {cache : Cache}
      {events : List CacheEvent} (h : w.ongoing name = some o)
      (hact : CacheAct w.cache w.compiles o.call o.stage stage cache events) :
      Step w { w.leaveAt name (some { o with stage }) with
        cache, events := w.events ++ events }
  /-- A thread that found nothing leaves the shared section. -/
  | giveWay (name : String) {o : OngoingCall} {c : Contention} (h : w.ongoing name = some o)
      (hstage : o.stage = .missed) (hmove : w.contention.move? name .leave = some c) :
      Step w { w.leaveAt name (some { o with stage := .entering .exclusive }) with contention := c }
  /-- A thread leaves its section and returns. -/
  | finish (name : String) {o : OngoingCall} {a : Access}
      {answer : Except Fault (Option CachedType)} {c : Contention} (h : w.ongoing name = some o)
      (hstage : o.stage = .leaving a answer) (hmove : w.contention.move? name .leave = some c) :
      Step w { w.leaveAt name none with
        contention := c, returned := w.returned ++ [⟨o.call, o.start, w.clock, answer⟩] }

/-- The states that steps of threads lead to, in whatever order. -/
inductive Reachable : SharedCache → Prop
  | init (settings : Settings) : Reachable (init settings)
  | step {w w' : SharedCache} (h : Reachable w) (hs : Step w w') : Reachable w'

/-! ### Sections and holds -/

/-- The holds of the lock that belong to what a thread is at. -/
def heldBy (w : SharedCache) (name : String) : List Access :=
  (w.ongoing name).elim [] fun o => o.stage.held

variable {w w' : SharedCache} {name other : String} {o : OngoingCall}

theorem heldBy_of_some (ho : w.ongoing name = some o) : w.heldBy name = o.stage.held := by
  rw [heldBy, ho, Option.elim_some]

theorem heldBy_of_none (ho : w.ongoing name = none) : w.heldBy name = [] := by
  rw [heldBy, ho, Option.elim_none]

section Turn

variable {o? : Option OngoingCall}

theorem ongoing_self (h : w'.ongoing = Function.update w.ongoing name o?) :
    w'.ongoing name = o? := by
  rw [h, Function.update_self]

theorem ongoing_of_ne (h : w'.ongoing = Function.update w.ongoing name o?)
    (hne : other ≠ name) : w'.ongoing other = w.ongoing other := by
  rw [h, Function.update_of_ne hne]

end Turn

/-- Whether threads have the holds that belong to what they are at, and wait only to enter. -/
structure Locked (w : SharedCache) : Prop where
  reachable : w.contention.Reachable
  held : ∀ name, (w.contention.thread name).held = w.heldBy name
  awaits : ∀ name a, (w.contention.thread name).Awaits a →
    ∃ o, w.ongoing name = some o ∧ o.stage = .entering a

namespace Locked

theorem writes_iff (h : w.Locked) (ho : w.ongoing name = some o) :
    w.Writes name ↔ .exclusive ∈ o.stage.held := by
  rw [Writes, h.held, heldBy_of_some ho]

/-- **Nobody else is in an exclusive section with a thread that is in one.** -/
theorem alone (h : w.Locked) (hname : w.Writes name) (hother : w.Writes other) : other = name :=
  h.reachable.counted.writer_unique hother hname

/-- A thread in a section does not wait. -/
theorem waiting_eq_none (h : w.Locked) (ho : w.ongoing name = some o) (hheld : o.stage.held ≠ []) :
    (w.contention.thread name).waiting = none := by
  by_contra hwaits
  obtain ⟨x, hx⟩ := Option.ne_none_iff_exists'.1 hwaits
  obtain ⟨o', ho', hstage⟩ := h.awaits name x.access (by rw [Thread.Awaits, hx]; rfl)
  obtain rfl : o = o' := Option.some.inj (ho.symm.trans ho')
  exact hheld (by rw [hstage]; rfl)

/-- A thread that asks for the lock, or tests again, is let in or has to wait. -/
theorem thread_entering (h : w.Locked) {a : Access} {m : Move} {c : Contention}
    (ho : w.ongoing name = some o) (hstage : o.stage = .entering a)
    (hm : m = .request a ∨ m = .test) (hmove : w.contention.move? name m = some c) :
    c.thread name = ⟨[a], none⟩ ∨ c.thread name = ⟨[], some ⟨a, false⟩⟩ := by
  have hheld : (w.contention.thread name).held = [] := by
    rw [h.held, heldBy_of_some ho, hstage]
    rfl
  rcases hm with rfl | rfl
  · obtain ⟨-, hthread⟩ := Contention.thread_of_request hmove
    rwa [hheld] at hthread
  · obtain ⟨b, hawaits, hthread⟩ := Contention.thread_of_test hmove
    -- what it waits for is what it is to enter
    obtain ⟨o', ho', hstage'⟩ := h.awaits name b hawaits
    obtain rfl : o = o' := Option.some.inj (ho.symm.trans ho')
    obtain rfl : a = b := by simpa using hstage.symm.trans hstage'
    rwa [hheld] at hthread

/-- A step of one thread, after which it has the holds of what it is at. -/
theorem update (h : w.Locked) {o? : Option OngoingCall}
    (hongoing : w'.ongoing = Function.update w.ongoing name o?)
    (hreachable : w'.contention.Reachable)
    (hthreads : ∀ other, other ≠ name →
      (w'.contention.thread other).held = (w.contention.thread other).held ∧
        ∀ a, (w'.contention.thread other).Awaits a ↔ (w.contention.thread other).Awaits a)
    (hheld : (w'.contention.thread name).held = o?.elim [] fun o => o.stage.held)
    (hawaits : ∀ a, (w'.contention.thread name).Awaits a →
      ∃ o, o? = some o ∧ o.stage = .entering a) : w'.Locked := by
  refine ⟨hreachable, fun other => ?_, fun other a hother => ?_⟩
  · by_cases hne : other = name
    · rw [hne, hheld, heldBy, ongoing_self hongoing]
    · rw [(hthreads other hne).1, h.held, heldBy, heldBy, ongoing_of_ne hongoing hne]
  · by_cases hne : other = name
    · subst hne
      rw [ongoing_self hongoing]
      exact hawaits a hother
    · rw [ongoing_of_ne hongoing hne]
      exact h.awaits other a (((hthreads other hne).2 a).1 hother)

/-- **Every step keeps holds and sections together.** -/
theorem step (h : w.Locked) (hs : Step w w') : w'.Locked := by
  cases hs with
  | @call name ho call =>
    refine h.update rfl h.reachable (fun _ _ => ⟨rfl, fun _ => Iff.rfl⟩) ?_ ?_
    · exact (h.held name).trans (heldBy_of_none ho)
    · intro a hawaits
      obtain ⟨o, ho', -⟩ := h.awaits name a hawaits
      rw [ho] at ho'
      cases ho'
  | @wait name o a m c ho hstage hm hmove hout =>
    have hthread : c.thread name = ⟨[], some ⟨a, false⟩⟩ := by
      rcases h.thread_entering ho hstage hm hmove with hin | hwaits
      · exact absurd (by rw [hin]) hout
      · exact hwaits
    refine h.update rfl (h.reachable.step _ _ trivial hmove)
      (fun _ hne => Contention.thread_of_ne hmove hne) ?_ ?_
    · rw [Option.elim_some, hstage]
      exact congrArg Thread.held hthread
    · intro b hawaits
      have hsame : a = b := by simpa [Thread.Awaits, hthread] using hawaits
      exact ⟨o, rfl, hsame ▸ hstage⟩
  | @enter name o a m c ho hstage hm hmove hin =>
    have hthread : c.thread name = ⟨[a], none⟩ := by
      rcases h.thread_entering ho hstage hm hmove with hin' | hwaits
      · exact hin'
      · rw [hwaits] at hin
        cases hin
    refine h.update rfl (h.reachable.step _ _ trivial hmove)
      (fun _ hne => Contention.thread_of_ne hmove hne) ?_ ?_
    · exact congrArg Thread.held hthread
    · intro b hawaits
      simp [Thread.Awaits, hthread] at hawaits
  | @act name o stage cache events ho hact =>
    refine h.update rfl h.reachable (fun _ _ => ⟨rfl, fun _ => Iff.rfl⟩) ?_ ?_
    · rw [Option.elim_some, hact.held_eq]
      exact (h.held name).trans (heldBy_of_some ho)
    · intro b hawaits
      have hfree : (w.contention.thread name).waiting = none :=
        h.waiting_eq_none ho hact.held_ne_nil
      simp [Thread.Awaits, leaveAt, hfree] at hawaits
  | @giveWay name o c ho hstage hmove =>
    obtain ⟨-, hfree, hheld⟩ := Contention.thread_of_leave hmove
    refine h.update rfl (h.reachable.step _ _ trivial hmove)
      (fun _ hne => Contention.thread_of_ne hmove hne) ?_ ?_
    · show (c.thread name).held = []
      rw [hheld, h.held, heldBy_of_some ho, hstage]
      rfl
    · intro b hawaits
      simp [Thread.Awaits, hfree] at hawaits
  | @finish name o a answer c ho hstage hmove =>
    obtain ⟨-, hfree, hheld⟩ := Contention.thread_of_leave hmove
    refine h.update rfl (h.reachable.step _ _ trivial hmove)
      (fun _ hne => Contention.thread_of_ne hmove hne) ?_ ?_
    · show (c.thread name).held = []
      rw [hheld, h.held, heldBy_of_some ho, hstage]
      rfl
    · intro b hawaits
      simp [Thread.Awaits, hfree] at hawaits

end Locked

theorem Reachable.locked (h : w.Reachable) : w.Locked := by
  induction h with
  | init settings => exact ⟨.start, fun _ => rfl, fun name a hawaits => by cases hawaits⟩
  | step _ hs ih => exact ih.step hs

end SharedCache

end TrackedEntity
