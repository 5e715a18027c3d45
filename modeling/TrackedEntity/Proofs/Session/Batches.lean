import TrackedEntity.Proofs.Session.EntryPoints
import TrackedEntity.Proofs.Session.Requests

/-!
# Batches are built as single entities are

A batch is started for a count and a contract that were looked at before (`Session.run_buildMany`),
and it makes no entity then.  What the requests to it do, `Session.BuildsSingly` says for any course
of steps in between: as long as they gave entities, the next one makes the entity at its index as it
would be made singly, up to the count, and after one that gave none all others find the batch
exhausted.  `Session.batches_build_singly` puts this together.

No step but a request touches a batch, unless another one is started under its name
(`Session.spares_perform`).  So after any steps the batch stands at the number of requests, if all
of them gave entities, and has ended otherwise (`Session.Stands.after`); that is by induction on the
steps, with `Session.Stands.advance` for the requests among them.
-/

namespace TrackedEntity

open Outcome

/-! ### Counts -/

theorem requireCount_of_integer {count : Value} {n : ℤ} (h : count.integer? = some n) (hn : 1 ≤ n) :
    requireCount count = .ok () := by
  have hless : (Exact.ofInt n).less (.ofInt 1) = false := by
    rw [Exact.ofInt, Exact.ofInt, Exact.less, decide_eq_false_iff_not]
    have halign : ∀ k : ℤ, Exact.align k 0 (min 0 0) = k := fun k => Int.mul_one k
    rw [halign, halign]
    omega
  cases count with
  | int k =>
    obtain rfl := Option.some.inj h
    show (if (Exact.ofInt k).less (.ofInt 1) then _ else _) = _
    rw [hless]
    rfl
  | bool b =>
    obtain rfl := Option.some.inj h
    show (if (Exact.ofInt (if b then 1 else 0)).less (.ofInt 1) then _ else _) = _
    rw [hless]
    rfl
  | _ => cases h

namespace Session

namespace Effect

variable {batch : String}

/-! ### Other steps -/

/-- Whether a computation leaves a batch as it is. -/
def Spares (batch : String) {α : Type} (x : Effect α) : Prop :=
  ∀ s : Session, (x.run s).2.batches.get? batch = s.batches.get? batch

namespace Spares

variable {α β : Type}

theorem pure (a : α) : Spares batch (Pure.pure a) := fun _ => rfl

theorem throw (h : Halt) : Spares batch (MonadExcept.throw h : Effect α) := fun _ => rfl

theorem get : Spares batch (MonadState.get : Effect Session) := fun _ => rfl

theorem modifying {f : Session → Session}
    (h : ∀ s, (f s).batches.get? batch = s.batches.get? batch) :
    Spares batch (modify f : Effect PUnit) := h

theorem bind {x : Effect α} {f : α → Effect β} (hx : Spares batch x)
    (hf : ∀ a, Spares batch (f a)) : Spares batch (x >>= f) := by
  intro s
  have hsame := hx s
  rw [run_bind]
  cases hrun : x.run s with
  | mk r s' =>
    rw [hrun] at hsame
    cases r with
    | error h => exact hsame
    | ok a => exact (hf a s').trans hsame

theorem ofExcept (x : Except Fault α) : Spares batch (Effect.ofExcept x) := by
  intro s
  rw [run_ofExcept]

theorem forM {as : List β} {f : β → Effect PUnit} (hf : ∀ b, Spares batch (f b)) :
    Spares batch (as.forM f) := by
  induction as with
  | nil => exact pure _
  | cons b as ih => exact (hf b).bind fun _ => ih

theorem leaving (x : StateM Traces α) : Spares batch (Effect.leaving x) := fun _ => rfl

theorem making (x : Value.Making α) : Spares batch (Effect.making x) := (leaving _).bind ofExcept

theorem setCache (name : CacheName) (c : Cache) : Spares batch (Effect.setCache name c) :=
  modifying fun _ => rfl

theorem cache (name : CacheName) : Spares batch (Effect.cache name) := by
  intro s
  rw [run_cache]
  cases s.cacheFor name <;> rfl

theorem request (name : CacheName) (r : Cache.Request α) : Spares batch (Effect.request name r) :=
  (cache name).bind fun c => (setCache name (r.run.run c).2).bind fun _ => ofExcept _

theorem contract (m : Mention) : Spares batch (Effect.contract m) := by
  refine get.bind fun s => get.bind fun _ => (making _).bind fun (contract, catalog) => ?_
  exact bind (x := modify _) (modifying fun _ => rfl) fun _ => pure contract

theorem compiled (name : CacheName) (m : Mention) : Spares batch (Effect.compiled name m) :=
  (contract m).bind fun _ => get.bind fun _ => request name _

theorem present (name : CacheName) (made : CachedType) :
    Spares batch (Session.present name made) := by
  refine bind (fun s => ?_) fun n => pure _
  rw [appearance, run_bind_ok (run_get s)]
  cases s.shown.idxOf? (name, made.number) <;> rfl

theorem create (name : String) (type : CompiledType) (made : Except Fault EntityState) :
    Spares batch (Effect.create name type made) :=
  (ofExcept made).bind fun _ => bind (x := modify _) (modifying fun _ => rfl) fun _ => pure _

theorem onEntity (name : String) (work : Runner → Scene → Exec α) :
    Spares batch (Effect.onEntity name work) := by
  intro s
  cases he : s.entities.get? name with
  | some e => rw [run_onEntity he]
  | none =>
    rw [Effect.onEntity, run_bind_ok (run_get s), he]
    rfl

theorem draw_of_ne {other : String} (h : batch ≠ other) (entity : String) :
    Spares batch (Effect.draw other entity) := by
  intro s
  cases hb : s.batches.get? other with
  | none =>
    rw [Effect.draw, run_bind_ok (run_get s), hb]
    rfl
  | some b =>
    rw [run_draw hb]
    rcases (b.draw ((b.type.scene s.handlers).run depthLimit)).run s.traces with
      ⟨⟨drawn, b'⟩, traces⟩
    cases drawn <;> exact Table.get?_put_of_ne h _ _

end Spares

end Effect

end Session

/-- Whether a step asks a batch for an entity. -/
def Step.draws (batch : String) : Step → Bool
  | .next other _ => other == batch
  | _ => false

/-- Whether a step starts a batch under a name. -/
def Step.starts (batch : String) : Step → Bool
  | .buildMany _ _ _ _ other => other == batch
  | _ => false

namespace Session

open Effect

/-- **No other step touches a batch.** -/
theorem spares_perform {batch : String} {step : Step} (hdraws : step.draws batch = false)
    (hstarts : step.starts batch = false) : Spares batch (perform step) := by
  cases step with
  | size name | settings name => exact (Spares.cache name).bind fun _ => .pure _
  | clear name =>
    exact (Spares.cache name).bind fun _ => (Spares.setCache _ _).bind fun _ => .pure _
  | contains name m =>
    exact (Spares.contract m).bind fun _ => (Spares.cache name).bind fun _ =>
      (Spares.ofExcept _).bind fun _ => .pure _
  | compiled name m => exact (Spares.compiled name m).bind fun _ => .present _ _
  | raced name m =>
    exact (Spares.contract m).bind fun _ => Spares.get.bind fun _ =>
      (Spares.request name _).bind fun _ => .present _ _
  | build name m entity | buildDerived name m className entity =>
    exact (Spares.compiled name m).bind fun _ => (Spares.create _ _ _).bind fun _ => .pure _
  | buildMany name m count initializer other =>
    have hne : batch ≠ other := fun h => by simp [Step.starts, h] at hstarts
    refine (Spares.contract m).bind fun _ => (Spares.making _).bind fun _ =>
      (Spares.ofExcept _).bind fun _ => Spares.get.bind fun _ => (Spares.request name _).bind
      fun _ => Spares.bind (x := modify _) (.modifying fun s => ?_) fun _ => .pure _
    exact Table.get?_put_of_ne hne _ _
  | next other entity =>
    have hne : batch ≠ other := fun h => by simp [Step.draws, h] at hdraws
    refine (Spares.draw_of_ne hne entity).bind fun drawn => ?_
    cases drawn <;> exact .pure _
  | direct m given entity =>
    exact (Spares.contract m).bind fun _ => Spares.get.bind fun _ => (Spares.ofExcept _).bind
      fun _ => Spares.get.bind fun _ => (Spares.ofExcept _).bind fun _ =>
      (Spares.create _ _ _).bind fun _ => .pure _
  | environment changes =>
    refine (Spares.forM fun (name, v) => ?_).bind fun _ => .pure _
    exact Spares.get.bind fun s => (Spares.ofExcept _).bind fun e => .modifying fun _ => rfl
  | patch directory name member =>
    exact (Spares.making _).bind fun _ => Spares.get.bind fun _ => (Spares.ofExcept _).bind
      fun _ => Spares.bind (x := modify _) (.modifying fun _ => rfl) fun _ => .pure _
  | bare => exact Spares.get.bind fun _ => .throw _
  | entity name work =>
    rw [perform]
    exact .onEntity name _

/-! ### Courses of steps -/

/-- The session as the next step finds it. -/
def quiet (s : Session) : Session := { s with traces := { s.traces with history := [] } }

/-- The session after steps. -/
def after (s : Session) (steps : List Step) : Session :=
  steps.foldl (fun s step => (s.advance step).2) s

/-- What the requests to a batch among steps came to. -/
def requests (batch : String) : Session → List Step → List (Except Halt Answer)
  | _, [] => []
  | s, step :: steps =>
    (if step.draws batch then [(s.advance step).1.result] else []) ++
      requests batch (s.advance step).2 steps

/-- Whether a request gave an entity. -/
def Yielded (result : Except Halt Answer) : Prop := ∃ className, result = .ok (.text className)

instance : DecidablePred Yielded
  | .ok (.text className) => .isTrue ⟨className, rfl⟩
  | .ok .nothing | .ok (.value _) | .ok (.truth _) | .ok (.count _) | .ok (.settings _)
  | .ok (.compiled _ _) | .ok (.changes _) | .ok (.names _) | .ok (.nature _ _ _) | .ok .exhausted
  | .error _ => .isFalse fun ⟨_, h⟩ => by cases h

/-- Whether a batch stands at an index, or has ended. -/
def Stands (s : Session) (batch : String) (type : CompiledType) (count : Value)
    (initializer : Option Expr) (next : Option ℕ) : Prop :=
  s.batches.get? batch = some ⟨type, count, initializer, next⟩

variable {s : Session} {batch : String} {type : CompiledType} {count : Value}
  {initializer : Option Expr} {n : ℤ} {i : ℕ}

/-- Nothing brings a batch back that has ended. -/
theorem Stands.after_of_ended (h : s.Stands batch type count initializer none) {steps : List Step}
    (hsteps : ∀ step ∈ steps, step.starts batch = false) :
    (s.after steps).Stands batch type count initializer none := by
  induction steps generalizing s with
  | nil => exact h
  | cons step steps ih =>
    rw [List.forall_mem_cons] at hsteps
    refine ih ?_ hsteps.2
    cases hdraws : step.draws batch with
    | false => exact (spares_perform hdraws hsteps.1 s.quiet).trans h
    | true =>
      cases step with
      | next other entity =>
        obtain rfl : other = batch := beq_iff_eq.1 hdraws
        have hended := run_next_of_ended (s := s.quiet) h rfl entity
        show ((perform (.next other entity)).run s.quiet).2.Stands _ _ _ _ _
        rw [hended]
        exact h
      | _ => cases hdraws

/-- A request gives an entity, and the batch goes on to the next index, or the batch ends. -/
theorem Stands.advance (h : s.Stands batch type count initializer (some i))
    (hcount : count.integer? = some n) (hi : (i : ℤ) ≤ n) (entity : String) :
    Yielded (s.advance (.next batch entity)).1.result ∧ (i : ℤ) < n ∧
      (s.advance (.next batch entity)).2.Stands batch type count initializer (some (i + 1)) ∨
    ¬ Yielded (s.advance (.next batch entity)).1.result ∧
      (s.advance (.next batch entity)).2.Stands batch type count initializer none := by
  show Yielded ((perform (.next batch entity)).run s.quiet).1 ∧ _ ∧
      ((perform (.next batch entity)).run s.quiet).2.Stands _ _ _ _ _ ∨
    ¬ Yielded ((perform (.next batch entity)).run s.quiet).1 ∧
      ((perform (.next batch entity)).run s.quiet).2.Stands _ _ _ _ _
  rcases hi.lt_or_eq with hlt | rfl
  · rw [run_next_of_left (s := s.quiet) h rfl hcount hlt]
    dsimp only
    rcases (singly entity type initializer i).run s.quiet with ⟨result, s'⟩
    cases result with
    | ok className => exact .inl ⟨⟨className, rfl⟩, hlt, Table.get?_put_self _ _ _⟩
    | error halt => exact .inr ⟨fun ⟨_, h⟩ => (by cases h), Table.get?_put_self _ _ _⟩
  · rw [run_next_of_all (s := s.quiet) h rfl hcount le_rfl]
    exact .inr ⟨fun ⟨_, h⟩ => (by cases h), Table.get?_put_self _ _ _⟩

/-- **Where a batch stands after any steps.**  As long as the requests to it gave entities, it
stands at their number; after a request that gave none it has ended. -/
theorem Stands.after (h : s.Stands batch type count initializer (some i))
    (hcount : count.integer? = some n) (hi : (i : ℤ) ≤ n) {steps : List Step}
    (hsteps : ∀ step ∈ steps, step.starts batch = false) :
    ((∀ r ∈ requests batch s steps, Yielded r) →
      (i + (requests batch s steps).length : ℤ) ≤ n ∧
      (s.after steps).Stands batch type count initializer
        (some (i + (requests batch s steps).length))) ∧
    ((∃ r ∈ requests batch s steps, ¬ Yielded r) →
      (s.after steps).Stands batch type count initializer none) := by
  -- the session and the index change with every step, so the induction is for all of them
  induction steps generalizing s i with
  | nil => exact ⟨fun _ => ⟨by simpa [requests] using hi, h⟩, fun ⟨r, hr, _⟩ => by cases hr⟩
  | cons step steps ih =>
    rw [List.forall_mem_cons] at hsteps
    rw [requests]
    cases hdraws : step.draws batch with
    | false =>
      have hsame : (s.advance step).2.Stands batch type count initializer (some i) :=
        (spares_perform hdraws hsteps.1 s.quiet).trans h
      exact ih hsame hi hsteps.2
    | true =>
      cases step with
      | next other entity =>
        obtain rfl : other = batch := beq_iff_eq.1 hdraws
        rw [if_pos rfl, List.singleton_append, List.forall_mem_cons, List.exists_mem_cons_iff,
          List.length_cons]
        rcases h.advance hcount hi entity with ⟨hyielded, hlt, hnext⟩ | ⟨hhalted, hended⟩
        · -- what the requests came to is up to those that follow
          obtain ⟨hall, hsome⟩ := ih hnext (by omega) hsteps.2
          refine ⟨fun ⟨_, hrest⟩ => ?_, fun hsome' => ?_⟩
          · obtain ⟨hle, hstands⟩ := hall hrest
            refine ⟨by omega, ?_⟩
            rwa [Nat.add_right_comm] at hstands
          · exact hsome (hsome'.resolve_left fun hnot => hnot hyielded)
        · exact ⟨fun ⟨hyielded, _⟩ => absurd hyielded hhalted,
            fun _ => hended.after_of_ended hsteps.2⟩
      | _ => cases hdraws

/-- What the requests to a batch of a type do, after other steps: as long as they gave entities, the
next one makes the entity at its index as it would be made singly, up to the count; after one that
gave none, the others do nothing. -/
structure BuildsSingly (s : Session) (batch : String) (type : CompiledType) (count : Value) (n : ℤ)
    (initializer : Option Expr) (before : List Step) : Prop where
  few : (∀ r ∈ requests batch s before, Yielded r) → (requests batch s before).length ≤ n
  left : (∀ r ∈ requests batch s before, Yielded r) → (requests batch s before).length < n →
    ∀ entity, (perform (.next batch entity)).run (s.after before).quiet =
      match (singly entity type initializer (requests batch s before).length).run
        (s.after before).quiet with
      | (.ok className, s') => (.ok (.text className), s'.withBatch batch
          ⟨type, count, initializer, some ((requests batch s before).length + 1)⟩)
      | (.error h, s') => (.error h, { s' with
          entities := (s.after before).entities }.withBatch batch ⟨type, count, initializer, none⟩)
  all : (∀ r ∈ requests batch s before, Yielded r) → (requests batch s before).length = n →
    ∀ entity, (perform (.next batch entity)).run (s.after before).quiet =
      (.ok .exhausted,
        (s.after before).quiet.withBatch batch ⟨type, count, initializer, none⟩)
  ended : (∃ r ∈ requests batch s before, ¬ Yielded r) → ∀ entity,
    (perform (.next batch entity)).run (s.after before).quiet =
      (.ok .exhausted, (s.after before).quiet)

theorem Stands.buildsSingly (h : s.Stands batch type count initializer (some 0))
    (hcount : count.integer? = some n) (hn : 0 ≤ n) {before : List Step}
    (hbefore : ∀ step ∈ before, step.starts batch = false) :
    s.BuildsSingly batch type count n initializer before := by
  -- a batch that was started stands at index zero
  obtain ⟨hall, hsome⟩ := h.after hcount hn hbefore
  rw [Nat.zero_add] at hall
  refine ⟨fun hyielded => ?_, fun hyielded hlt entity => ?_, fun hyielded heq entity => ?_,
    fun hhalted entity => ?_⟩
  · obtain ⟨hle, -⟩ := hall hyielded
    omega
  · obtain ⟨-, hstands⟩ := hall hyielded
    exact run_next_of_left (s := (s.after before).quiet) hstands rfl hcount hlt entity
  · obtain ⟨-, hstands⟩ := hall hyielded
    exact run_next_of_all (s := (s.after before).quiet) hstands rfl hcount heq.ge entity
  · exact run_next_of_ended (s := (s.after before).quiet) (hsome hhalted) rfl entity

end Session

/-! ### Starting a batch -/

/-- A request fails and changes nothing, or gives what is in the cache afterwards. -/
theorem Cache.run_request_cases (catalog : Catalog) (contract : Contract) (cache : Cache) :
    (∃ f, cache.gives catalog contract = .error f ∧
      (Cache.request catalog contract).run.run cache = (.error f, cache)) ∨
    ∃ made cache', cache.gives catalog contract = .ok made.type ∧
      (Cache.request catalog contract).run.run cache = (.ok made, cache') ∧
      cache'.find contract = .ok (some made) := by
  cases hfind : cache.find contract with
  | error f => exact .inl ⟨f, gives_of_error hfind, run_requestAmong_of_error hfind⟩
  | ok found =>
    cases found with
    | some found =>
      exact .inr ⟨found, cache, gives_of_found hfind, run_request_of_found hfind, hfind⟩
    | none =>
      have hgives : cache.gives catalog contract = _ := gives_of_missing hfind
      have hrun : (Cache.request catalog contract).run.run cache = _ := run_request_of_missing hfind
      cases hcompile : catalog.compile cache.settings contract with
      | error f =>
        exact .inl ⟨f, hgives.trans hcompile,
          hrun.trans (run_compileMissing_of_fail hfind hcompile)⟩
      | ok type =>
        have hstored := run_compileMissing_of_compile hfind hcompile
        obtain rfl := Catalog.contract_of_compile hcompile
        exact .inr ⟨_, _, hgives.trans hcompile, hrun.trans hstored, find_store cache _ type⟩

namespace Session

section Starting

open Effect

variable {s s₀ s₁ : Session} {m : Mention} {contract : Contract} {count value : Value}
  {name : CacheName} {c : Cache}

/-- Evaluating the arguments of a call makes no entity and leaves no traces but new objects. -/
theorem entities_of_arguments (hcontract : (Effect.contract m).run s = (.ok contract, s₀))
    (hvalue : (Effect.make count).run s₀ = (.ok value, s₁)) :
    s₁.entities = s.entities ∧ s₁.traces.history = s.traces.history := by
  rw [Effect.make, run_making] at hvalue
  obtain rfl := (Prod.mk.inj hvalue).2
  rw [run_contract] at hcontract
  split at hcontract
  · obtain rfl := (Prod.mk.inj hcontract).2
    exact ⟨rfl, rfl⟩
  · cases hcontract

/-- A count that is refused is refused before anything is compiled. -/
theorem run_buildMany_of_refused (hcontract : (Effect.contract m).run s = (.ok contract, s₀))
    (hvalue : (Effect.make count).run s₀ = (.ok value, s₁)) {f : Fault}
    (hrefused : requireCount value = .error f) (initializer : Option Expr) (batch : String) :
    (perform (.buildMany name m count initializer batch)).run s = (.error (.fault f), s₁) := by
  rw [perform, run_bind_ok hcontract, run_bind_ok hvalue, hrefused]
  rfl

/-- A count that is accepted leaves it to the cache whether a batch is started. -/
theorem run_buildMany (hcontract : (Effect.contract m).run s = (.ok contract, s₀))
    (hvalue : (Effect.make count).run s₀ = (.ok value, s₁))
    (haccepted : requireCount value = .ok ()) (hcache : s₁.cacheFor name = .ok c)
    (initializer : Option Expr) (batch : String) :
    (perform (.buildMany name m count initializer batch)).run s =
      match (Cache.request s₁.catalog contract).run.run c with
      | (.ok made, c') => (.ok .nothing,
          (s₁.withCache name c').withBatch batch (.start made.type value initializer))
      | (.error f, c') => (.error (.fault f), s₁.withCache name c') := by
  have hok : (Effect.ofExcept (.ok ())).run s₁ = (.ok (), s₁) := rfl
  rw [perform, run_bind_ok hcontract, run_bind_ok hvalue, haccepted, run_bind_ok hok,
    run_bind_ok (run_get s₁), run_bind, run_request hcache]
  rcases (Cache.request s₁.catalog contract).run.run c with ⟨result, c'⟩
  cases result <;> rfl

/-- Where a cache holds a class, building an entity is making one of the type that is held. -/
theorem run_build_of_found {ref : ClassRef} {made : CachedType}
    (hcache : s.caches.get? name = some c) (hfind : c.find (.ofClass ref) = .ok (some made))
    (entity : String) :
    (perform (.build name (.ofClass ref) entity)).run s =
      (do return .text (← create entity made.type made.type.newEntity) : Effect Answer).run s := by
  have hcontract : (Effect.contract (.ofClass ref)).run s = (.ok (.ofClass ref), s) := rfl
  have hfound : s.cacheFor name = .ok c := by rw [cacheFor, hcache]
  have hcompiled : (compiled name (.ofClass ref)).run s = (.ok made, s) := by
    rw [compiled, run_bind_ok hcontract, run_bind_ok (run_get s), run_request hfound,
      Cache.run_request_of_found hfind, withCache, Table.put_of_get? hcache]
    rfl
  rw [perform, run_bind_ok hcompiled]

/-- Where no more mutable properties are there than a mask has room for, entities of the types that
a session gives can be made. -/
theorem Reached.exists_newEntity {patched : Bool} {t : CompiledType}
    (h : Reached patched s) (hm : m.Known s.catalog.classes)
    (hcontract : (Effect.contract m).run s = (.ok contract, s₀))
    (hvalue : (Effect.make count).run s₀ = (.ok value, s₁)) (hcache : s₁.cacheFor name = .ok c)
    (hgives : c.gives s₁.catalog contract = .ok t)
    (hroom : (t.schema.mutableCount + 7) / 8 < Mask.leastTooLarge) : ∃ e, t.newEntity = .ok e := by
  have hfresh := (h.fresh.contract hm hcontract).1.of_aside (.making count.make)
  have hmade : ((making count.make).run s₀).2 = s₁ := congrArg Prod.snd hvalue
  rw [hmade] at hfresh
  obtain ⟨hooks, -, hcompile⟩ := (hfresh.current_of_cacheFor hcache).exists_hooks_of_gives hgives
  exact CompiledType.exists_newEntity hcompile hroom

/-- **Batches are built lazily, in order, and as single entities are.**

A count below one is refused before anything is compiled, whatever the contract is.  Otherwise the
call fails as the cache does for the contract, or starts a batch of the type that the cache gives,
which is the one that single entities are built from at that time.  It makes no entity.  Whatever is
done then, the requests to the batch build entities of this type singly, each for its index, until
one of them fails or all are there. -/
theorem batches_build_singly (hcontract : (Effect.contract m).run s = (.ok contract, s₀))
    (hvalue : (Effect.make count).run s₀ = (.ok value, s₁)) (name : CacheName)
    (initializer : Option Expr) (batch : String) :
    (∀ x, value.real? = some x → x.less (.ofInt 1) = true →
      (perform (.buildMany name m count initializer batch)).run s =
        (.error (.fault (.batchTooSmall value.describe)), s₁) ∧
      (Fault.batchTooSmall value.describe).kind = .range) ∧
    ∀ n, value.integer? = some n → 1 ≤ n → ∀ c, s₁.cacheFor name = .ok c →
      (∀ f, c.gives s₁.catalog contract = .error f →
        (perform (.buildMany name m count initializer batch)).run s =
          (.error (.fault f), s₁.withCache name c)) ∧
      ∀ t, c.gives s₁.catalog contract = .ok t →
        ∃ c' made s', c'.find contract = .ok (some made) ∧ made.type = t ∧
          s' = (s₁.withCache name c').withBatch batch (.start t value initializer) ∧
          (perform (.buildMany name m count initializer batch)).run s = (.ok .nothing, s') ∧
          s'.entities = s.entities ∧ s'.traces.history = s.traces.history ∧
          (∀ ref, m = .ofClass ref → ∀ entity,
            (perform (.build name m entity)).run s' =
              (do return .text (← create entity t t.newEntity) : Effect Answer).run s') ∧
          (∀ patched, Reached patched s → m.Known s.catalog.classes →
            (t.schema.mutableCount + 7) / 8 < Mask.leastTooLarge → ∃ e, t.newEntity = .ok e) ∧
          ∀ before, (∀ step ∈ before, step.starts batch = false) →
            s'.BuildsSingly batch t value n initializer before := by
  refine ⟨fun x hx hless => ⟨?_, rfl⟩, fun n hn hpositive c hcache => ?_⟩
  · refine run_buildMany_of_refused hcontract hvalue ?_ initializer batch
    rw [requireCount, hx]
    exact if_pos hless
  have hrun := run_buildMany hcontract hvalue (requireCount_of_integer hn hpositive) hcache
    initializer batch
  rcases Cache.run_request_cases s₁.catalog contract c with
    ⟨f, hgives, hrequest⟩ | ⟨made, c', hgives, hrequest, hfind⟩
  · -- the cache fails
    refine ⟨fun f' hf' => ?_, fun t ht => (by cases hgives.symm.trans ht)⟩
    obtain rfl := Except.error.inj (hgives.symm.trans hf')
    rw [hrun, hrequest]
  · -- the batch is started
    refine ⟨fun f hf => (by cases hgives.symm.trans hf), fun t ht => ?_⟩
    obtain rfl := Except.ok.inj (hgives.symm.trans ht)
    rw [hrequest] at hrun
    obtain ⟨hentities, hhistory⟩ := entities_of_arguments hcontract hvalue
    refine ⟨c', made, _, hfind, rfl, rfl, hrun, hentities, hhistory, ?_, ?_, ?_⟩
    · rintro ref rfl entity
      cases hcontract
      exact run_build_of_found (Table.get?_put_self _ _ _) hfind entity
    · exact fun patched hreached hm hroom =>
        hreached.exists_newEntity hm hcontract hvalue hcache hgives hroom
    · intro before hbefore
      have hstands : ((s₁.withCache name c').withBatch batch
          (.start made.type value initializer)).Stands batch made.type value initializer (some 0) :=
        Table.get?_put_self _ _ _
      exact hstands.buildsSingly hn (by omega) hbefore

end Starting

end Session

namespace Sample

/-- An initializer that gives up at the second entity. -/
def givesUp : Expr :=
  .ite (.atLeast (.arg 1) (.const (.int 1))) (.raise .value "no more")
    (.set "width" (.const (.int 5)))

/-- The call for a number of boxes. -/
def callForBoxes (count : ℤ) : Step :=
  .buildMany (.named "shapes") (.ofClass (.declared 0)) (.int count) (some givesUp) "boxes"

/-- The session after the call. -/
def boxesStarted : Session := ((Session.perform (callForBoxes 3)).run shapeSession).2

/-- The first box is asked for, and the cache is cleared. -/
def firstBox : List Step := [.next "boxes" "first", .clear (.named "shapes")]

end Sample

open Sample Session.Effect in
/-- The first of three boxes is there, the second one is not, as its initializer raises, and nobody
gets a third one; a call for no boxes at all is refused. -/
theorem Session.batches_build_singly_boxes :
    (perform (callForBoxes 0)).run shapeSession =
      (.error (.fault (.batchTooSmall "0")), shapeSession) ∧
    (requests "boxes" boxesStarted firstBox).length = 1 ∧
    (∀ r ∈ requests "boxes" boxesStarted firstBox, Yielded r) ∧
    ((perform (.next "boxes" "second")).run (boxesStarted.after firstBox).quiet).1 =
      .error (.fault (.raised .value "no more")) ∧
    ∀ entity, ((perform (.next "boxes" entity)).run
      (boxesStarted.after (firstBox ++ [.next "boxes" "second"])).quiet).1 = .ok .exhausted := by
  have hcontract : (Effect.contract (.ofClass (.declared 0))).run shapeSession =
    (.ok (.ofClass (.declared 0)), shapeSession) := rfl
  have hcache : shapeSession.cacheFor (.named "shapes") = .ok (.empty .default) := rfl
  have hlength : (requests "boxes" boxesStarted firstBox).length = 1 := by decide +kernel
  have hyielded : ∀ r ∈ requests "boxes" boxesStarted firstBox, Yielded r := by decide +kernel
  have hraised : ((singly "second" shapeType (some givesUp) 1).run
      (boxesStarted.after firstBox).quiet).1 = .error (.fault (.raised .value "no more")) := by
    decide +kernel
  have hhalted : ∃ r ∈ requests "boxes" boxesStarted (firstBox ++ [.next "boxes" "second"]),
      ¬ Yielded r := by decide +kernel
  have hcount (n : ℤ) : (Effect.make (.int n)).run shapeSession = (.ok (.int n), shapeSession) :=
    rfl
  obtain ⟨hrefused, -⟩ := batches_build_singly hcontract (hcount 0) (.named "shapes")
    (some givesUp) "boxes"
  obtain ⟨-, hstarted⟩ := batches_build_singly hcontract (hcount 3) (.named "shapes")
    (some givesUp) "boxes"
  obtain ⟨-, hgiven⟩ := hstarted 3 rfl (by norm_num) _ hcache
  obtain ⟨c', made, s', -, -, -, hrun, -, -, -, -, hbuilds⟩ := hgiven shapeType compile_shape
  obtain rfl : boxesStarted = s' := congrArg Prod.snd hrun
  refine ⟨(hrefused _ rfl rfl).1, hlength, hyielded, ?_, fun entity => ?_⟩
  · have hsecond := (hbuilds firstBox (by decide)).left hyielded (by omega) "second"
    rw [hlength] at hsecond
    rw [hsecond]
    generalize (singly "second" shapeType (some givesUp) 1).run
      (boxesStarted.after firstBox).quiet = done at hraised ⊢
    obtain ⟨result, s''⟩ := done
    obtain rfl : result = _ := hraised
    rfl
  · rw [(hbuilds _ (by decide)).ended hhalted entity]

end TrackedEntity
